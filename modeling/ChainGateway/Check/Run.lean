import ChainGateway.Check.Rank
import ChainGateway.Gateway

/-!
# Running a check

`Check.Step` leaves the order of actions open.  Here a check is run against the services behind
the gateway with a clock: tasks begin in the order of the chains, probes are given permits in the
order in which they came up, an answer arrives when its delay has passed, and of two answers that
arrive at the same instant the one that was asked for first comes first.  Whatever waits for
nothing is done before anything else happens, and an answer without delay arrives at once.  A
cancellation comes before an answer that arrives at the same instant, and once it has come
everything that is pending is dropped.

Every turn of a run takes one action of the transition system, so a run is a schedule, and it
ends because every action brings a check closer to its end.
-/

namespace ChainGateway.Check

/-! ## What waits for nothing -/

/-- What a probe does if it waits for nothing. -/
def Probe.ready? (cancelled : Bool) (probe : Probe) : Option ProbeAction :=
  match probe.stage with
  | .waiting => if cancelled then some .drop else if probe.permit then some .launch else none
  | .relaying => if cancelled then some .drop else none
  | .judged _ => some .report
  | .ended => none

/-- What the probes of a session, or the task that runs them, do if they wait for nothing. -/
def Probing.ready? (cancelled : Bool) (probing : Probing) : Option TaskAction :=
  if probing.reports.queue.isEmpty = false then some .receive
  else if probing.reports.isClosed then some .conclude
  else
    probing.probes.zipIdx.findSome? fun (probe, place) =>
      (probe.ready? cancelled).map (.probe place)

/-- What a task does if it waits for nothing and has looked for its session. -/
def ChainTask.ready? (cancelled : Bool) (task : ChainTask) : Option TaskAction :=
  match task.stage with
  | .retrieving call =>
      if call.isPending then (if cancelled then some .abandon else none) else some (.call .keep)
  | .probing probing => probing.ready? cancelled
  | .probed _ _ => some .deliver
  | .ended => none

/-- What happens in a check if it waits for nothing and its tasks have looked for their
sessions. -/
def State.ready? (state : State) : Option Action :=
  let action? := state.tasks.zipIdx.findSome? fun (task, place) =>
    (task.ready? state.cancelled).map (.task place)
  match action? with
  | some action => some action
  | none => if state.commons.deliveries.queue.isEmpty then none else some .collect

/-- The first task that has not looked for its session. -/
def State.firstBegun? (state : State) : Option Nat :=
  state.tasks.findIdx? fun task =>
    match task.stage with
    | .retrieving { stage := .begun, .. } => true
    | _ => false

/-! ## Runs -/

/-- An answer that is on its way: when it arrives, the action it makes possible, and what is
recorded when it has arrived. -/
structure Arrival where
  due : Instant
  action : Action
  event? : Option Event := none

/-- A check that is being run. -/
structure Run (σ : Type) where
  state : State
  services : σ
  now : Instant
  /-- The answers on their way, in the order in which they were asked for. -/
  arrivals : List Arrival := []
  /-- The probes that wait for a permit, in the order in which they came up. -/
  queue : List (Nat × Nat) := []
  /-- When the check is cancelled, if it lasts that long. -/
  cancelAt? : Option Instant := none
  events : List Event := []
  /-- The greatest number of probes in flight so far. -/
  peak : Nat := 0

namespace Run

variable {σ : Type}

/-- The run with which a check begins. -/
def ofStart (state : ChainGateway.State σ) (start : State) (cancelAfter? : Option Nat) : Run σ where
  state := { start with cancelled := cancelAfter? == some 0 }
  services := state.services
  now := state.now
  cancelAt? := cancelAfter?.map (state.now + ·)

/-! ## Effects of actions outside the transition system -/

/-- Lets the probes of a task queue up. -/
def enqueue (run : Run σ) (place : Nat) : Run σ :=
  match run.state.tasks[place]? with
  | some { stage := .probing probing, .. } =>
      { run with queue := run.queue ++ (List.range probing.probes.length).map (place, ·) }
  | _ => run

/-- Asks for the session of a task, if it was not in the cache. -/
def askForSession (backend : Backend σ) (run : Run σ) (place : Nat) : Run σ :=
  match run.state.tasks[place]? with
  | some { stage := .retrieving call, .. } =>
      let (reply, services) := backend.dispatch run.services call.key.publicKey call.key.chain
      let due := run.now + reply.delay
      { run with
        services
        events := run.events ++ [.dispatched call.key.publicKey call.key.chain]
        arrivals := run.arrivals ++
          [{ due, action := .task place (.call (.answer reply.outcome due)) }] }
  | _ => run.enqueue place

def sendProbe (backend : Backend σ) (run : Run σ) (place probe : Nat) : Run σ :=
  match run.state.tasks[place]? with
  | some { stage := .probing probing, .. } =>
      match probing.probes[probe]? with
      | some { relay, .. } =>
          let (reply, services) := backend.relay run.services relay
          { run with
            services
            peak := max run.peak run.state.inFlight
            arrivals := run.arrivals ++
              [{ due := run.now + reply.delay
                 action := .task place (.probe probe (.answered reply.outcome))
                 event? := some (.relayed relay) }] }
      | none => run
  | _ => run

/-- What an action brings with it outside the transition system. -/
def follow (backend : Backend σ) (run : Run σ) : Action → Run σ
  | .task place (.call (.look _)) => run.askForSession backend place
  | .task place (.call .keep) => run.enqueue place
  | .task _ (.probe _ .grant) => { run with queue := run.queue.tail }
  | .task place (.probe probe .launch) => run.sendProbe backend place probe
  -- Calls and relays that are under way are given up with their answers.
  | .cancel => { run with arrivals := [] }
  | _ => run

/-! ## Turns -/

/-- What a run does next. -/
inductive Turn where
  | act (action : Action)
  /-- It takes the first answer that has arrived by the given instant. -/
  | receive (instant : Instant)
  | cancelAt (instant : Instant)

def nextDue? (arrivals : List Arrival) : Option Instant :=
  (arrivals.map Arrival.due).min?

/-- What a run does next if all that is left is to wait for an answer. -/
def nextWait? (run : Run σ) : Option Turn :=
  match nextDue? run.arrivals, run.cancelAt? with
  | none, _ => none
  | some due, some instant => some (if instant ≤ due then .cancelAt instant else .receive due)
  | some due, none => some (.receive due)

/-- What a run does next, unless it has ended. -/
def nextTurn? (run : Run σ) : Option Turn :=
  match run.state.ready? with
  | some action => some (.act action)
  | none =>
      -- With nothing ready a cancelled check has ended, and no answer reaches it any more.
      if run.state.cancelled then none
      -- What has arrived is taken before anything new is asked for.
      else if run.arrivals.any fun arrival => arrival.due ≤ run.now then
        some (.receive run.now)
      else
        match run.state.firstBegun? with
        | some place => some (.act (.task place (.call (.look run.now))))
        | none =>
            match run.queue with
            | (place, probe) :: _ =>
                if 0 < run.state.commons.free then
                  some (.act (.task place (.probe probe .grant)))
                else run.nextWait?
            | [] => run.nextWait?

def act (backend : Backend σ) (run : Run σ) (action : Action) : Option (Run σ) :=
  (step run.state action).map fun state => ({ run with state }).follow backend action

def take (backend : Backend σ) (run : Run σ) : Turn → Option (Run σ)
  | .act action => run.act backend action
  | .receive instant =>
      match run.arrivals.findIdx? fun arrival => arrival.due ≤ instant with
      | some place =>
          match run.arrivals[place]? with
          | some arrival =>
              { run with
                now := instant
                arrivals := run.arrivals.eraseIdx place
                events := run.events ++ arrival.event?.toList }.act backend arrival.action
          | none => none
      | none => none
  | .cancelAt instant => { run with now := instant }.act backend .cancel

/-- The next turn of a run, unless it has ended. -/
def next? (backend : Backend σ) (run : Run σ) : Option (Run σ) :=
  run.nextTurn?.bind fun turn => run.take backend turn

/-! ## Every turn is an action -/

@[simp] theorem state_enqueue (run : Run σ) (place : Nat) :
    (run.enqueue place).state = run.state := by
  unfold enqueue
  split <;> rfl

@[simp] theorem state_askForSession (backend : Backend σ) (run : Run σ) (place : Nat) :
    (run.askForSession backend place).state = run.state := by
  unfold askForSession
  split
  · rfl
  · exact run.state_enqueue place

@[simp] theorem state_sendProbe (backend : Backend σ) (run : Run σ) (place probe : Nat) :
    (run.sendProbe backend place probe).state = run.state := by
  unfold sendProbe
  split
  · split <;> rfl
  · rfl

@[simp] theorem state_follow (backend : Backend σ) (run : Run σ) (action : Action) :
    (run.follow backend action).state = run.state := by
  unfold follow
  split <;> simp

theorem exists_of_act {backend : Backend σ} {run next : Run σ} {action : Action}
    (hact : run.act backend action = some next) :
    ∃ state, run.state.Moves action state ∧ next = ({ run with state }).follow backend action := by
  obtain ⟨state, hstep, hnext⟩ := Option.map_eq_some_iff.mp hact
  exact ⟨state, step_eq_some_iff.mp hstep, hnext.symm⟩

theorem moves_of_act {backend : Backend σ} {run next : Run σ} {action : Action}
    (hact : run.act backend action = some next) : run.state.Moves action next.state := by
  obtain ⟨state, hmoves, rfl⟩ := exists_of_act hact
  rwa [state_follow]

/-- Whatever turn a run takes, it takes an action, with what its state and peak were before. -/
theorem exists_act_of_next? {backend : Backend σ} {run next : Run σ}
    (hnext : run.next? backend = some next) :
    ∃ before : Run σ, ∃ action, before.state = run.state ∧ before.peak = run.peak ∧
      before.act backend action = some next := by
  obtain ⟨turn, -, htake⟩ := Option.bind_eq_some_iff.mp hnext
  unfold take at htake
  split at htake
  · exact ⟨_, _, rfl, rfl, htake⟩
  · split at htake
    · split at htake
      · refine ⟨_, _, ?_, ?_, htake⟩ <;> rfl
      · cases htake
    · cases htake
  · refine ⟨_, _, ?_, ?_, htake⟩ <;> rfl

theorem moves_of_next? {backend : Backend σ} {run next : Run σ}
    (hnext : run.next? backend = some next) :
    ∃ action, run.state.Moves action next.state := by
  obtain ⟨before, action, hstate, -, hact⟩ := exists_act_of_next? hnext
  have hmoves := moves_of_act hact
  rw [hstate] at hmoves
  exact ⟨action, hmoves⟩

/-- Takes turns until the run has ended. -/
def finish (backend : Backend σ) (run : Run σ) : Run σ :=
  match _hnext : run.next? backend with
  | some next => finish backend next
  | none => run
termination_by (run.state.retrieving, run.state.budget)
decreasing_by
  obtain ⟨action, hmoves⟩ := moves_of_next? _hnext
  exact Prod.lex_def.mpr hmoves.remaining

end Run

/-- What a check found, the state of the gateway after it and what it caused. -/
structure Report (σ : Type) where
  supporting : Table String (List Node)
  state : ChainGateway.State σ
  events : List Event
  /-- The greatest number of probes that were in flight at one time. -/
  peak : Nat

end Check

/-- The state in which a check of an application begins, if it can have its permits. -/
def Gateway.startCheck (gateway : Gateway) (application : Application)
    (chains : List Blockchain) (sessions : SessionCache) : Except Fault Check.State :=
  Check.State.start (.ofApplication application gateway.plan) chains (max 1 gateway.maxInFlight)
    sessions

theorem Gateway.startCheck_eq_ok_iff {gateway : Gateway} {application : Application}
    {chains : List Blockchain} {sessions : SessionCache} {start : Check.State} :
    gateway.startCheck application chains sessions = .ok start ↔
      max 1 gateway.maxInFlight ≤ Check.permitLimit ∧
        .initial (.ofApplication application gateway.plan) chains (max 1 gateway.maxInFlight)
          sessions = start :=
  Check.State.start_eq_ok_iff

theorem Gateway.exists_startCheck_iff {gateway : Gateway} {application : Application}
    {chains : List Blockchain} {sessions : SessionCache} :
    (∃ start, gateway.startCheck application chains sessions = .ok start) ↔
      max 1 gateway.maxInFlight ≤ Check.permitLimit := by
  simp [startCheck_eq_ok_iff]

/-- Finds out which nodes of the application's sessions serve each of the chains.  The check is
cancelled after so many milliseconds, if it lasts that long; with none it is cancelled before it
begins. -/
def Gateway.check {σ : Type} (gateway : Gateway) (backend : Backend σ) (state : State σ)
    (application : Application) (chains : List Blockchain) (cancelAfter? : Option Nat) :
    Except Fault (Check.Report σ) :=
  (gateway.startCheck application chains state.sessions).map fun start =>
    let last := (Check.Run.ofStart state start cancelAfter?).finish backend
    { supporting := last.state.results
      state := { state with
        sessions := last.state.commons.sessions, services := last.services, now := last.now }
      events := last.events
      peak := last.peak }

end ChainGateway
