import ChainGateway.Check.Run
import ChainGateway.Proofs.Check.History
import ChainGateway.Proofs.Check.Progress

/-!
# Probes within bounds, and each of them once

The relays of probes are on their way only under permits, of which there are as many as the
configuration allows.  Each node of each session that was obtained is sent one relay, unless the
check is cancelled before; it is never sent two.  Whatever ends a probe gives its permit back, and
a check comes to its end with all permits free (`probing_guarantees`).

That is so of every check that begins.  The configuration accepts any number of probes at a time
but zero, and a check that is to have more permits than there can be breaks down instead
(`accepted_check_never_begins`).

## Strategy

`Tallied` compares the relays sent to a node with those still to be sent.  A relay that is sent is
one fewer to be sent; only a cancellation takes away one that was to be sent, and so turns the
equation into an inequality.
-/

namespace ChainGateway.Check

/-! ## Relays that were sent -/

/-- Does the step send the relay of the probe at a position? -/
def launches (position : Nat) (moment : TaskStep) : Bool :=
  match moment.action.action with
  | .probe other .launch => decide (other = position)
  | _ => false

/-- How many relays the task at a place sent to the node at a position. -/
def launchesBy (place position : Nat) (history : List Step) : Nat :=
  (own place history).countP (launches position)

/-- The relays that were sent and those still to be sent are as many as are due, or fewer after a
cancellation. -/
def Tallied (log : List TaskStep) (position pending due : Nat) : Prop :=
  log.countP (launches position) + pending ≤ due ∧
    ((∀ moment ∈ log, moment.action.cancelled = false) →
      log.countP (launches position) + pending = due)

/-- One relay is due for each node of a session. -/
def due (session : Session) (position : Nat) : Nat :=
  if position < session.nodes.length then 1 else 0

/-- One for a probe whose relay is still to be sent. -/
def Probe.pending (probe : Probe) : Nat :=
  match probe.stage with
  | .waiting => 1
  | _ => 0

/-- One if the relay of the probe at a position is still to be sent. -/
def Probing.pending (probing : Probing) (position : Nat) : Nat :=
  match probing.probes[position]? with
  | some probe => probe.pending
  | none => 0

/-- What the steps of a task say about relays at each of its stages. -/
def Launched (log : List TaskStep) (task : ChainTask) : Prop :=
  match task.stage with
  | .retrieving _ => ∀ position, Tallied log position 0 0
  | .probing probing =>
      ∀ position, Tallied log position (probing.pending position) (due probing.session position)
  | .probed session _ => ∀ position, Tallied log position 0 (due session position)
  | .ended =>
      log.filterMap obtained? = [] ∧ (∀ position, Tallied log position 0 0) ∨
        ∃ session, log.filterMap obtained? = [session] ∧
          ∀ position, Tallied log position 0 (due session position)

theorem Tallied.append {log : List TaskStep} {position pending after due : Nat}
    {moment : TaskStep} (htallied : Tallied log position pending due)
    (hle : (if launches position moment then 1 else 0) + after ≤ pending)
    (heq : moment.action.cancelled = false →
      (if launches position moment then 1 else 0) + after = pending) :
    Tallied (log ++ [moment]) position after due := by
  obtain ⟨hbound, hexact⟩ := htallied
  unfold Tallied
  rw [List.countP_append, List.countP_singleton]
  -- the equation holds before the step, which was not cancelled either
  refine ⟨by omega, fun hundisturbed => ?_⟩
  have hearlier := hexact fun other hother => hundisturbed other (List.mem_append_left _ hother)
  have hlast := heq (hundisturbed moment (List.mem_append_right _ (List.mem_singleton_self _)))
  omega

/-- Where nothing was due and nothing sent, whatever is due is still to be sent. -/
theorem Tallied.start {log : List TaskStep} {position due : Nat}
    (htallied : Tallied log position 0 0) : Tallied log position due due := by
  obtain ⟨hbound, -⟩ := htallied
  have hnone : log.countP (launches position) = 0 := Nat.le_zero.mp hbound
  rw [Tallied, hnone, Nat.zero_add]
  exact ⟨Nat.le_refl _, fun _ => rfl⟩

/-- A step that sends no relay and takes none away leaves the tally as it is. -/
theorem Tallied.keep {log : List TaskStep} {position pending due : Nat} {moment : TaskStep}
    (htallied : Tallied log position pending due) (hlaunches : launches position moment = false) :
    Tallied (log ++ [moment]) position pending due :=
  htallied.append (by simp [hlaunches]) (by simp [hlaunches])

/-- One for the action that sends a relay. -/
def ProbeAction.sends : ProbeAction → Nat
  | .launch => 1
  | .grant | .answered _ | .drop | .report => 0

/-- A relay that is sent is one fewer to be sent, and only a cancellation takes one away. -/
theorem Probe.Moves.pending {chain : Blockchain} {cancelled : Bool} {probe next : Probe}
    {commons after : ProbeCommons} {action : ProbeAction}
    (hmoves : probe.Moves chain cancelled commons action next after) :
    action.sends + next.pending ≤ probe.pending ∧
      (cancelled = false → action.sends + next.pending = probe.pending) := by
  cases hmoves with
  | granted hstage hpermit hfree => simp [ProbeAction.sends, Probe.pending, hstage]
  | launched hstage hpermit hcancelled => simp [ProbeAction.sends, Probe.pending, hstage]
  | answered outcome hstage hcancelled => simp [ProbeAction.sends, Probe.pending, hstage]
  | dropped hstage hcancelled => simp [ProbeAction.sends, Probe.pending, hcancelled]
  | reported hstage hsend => simp [ProbeAction.sends, Probe.pending, hstage]

theorem launches_probe (task next : ChainTask) (cancelled : Bool) (place position : Nat)
    (action : ProbeAction) :
    (if launches position ⟨task, { cancelled, action := .probe place action }, next⟩
        then 1 else 0) =
      if place = position then action.sends else 0 := by
  cases action with
  | launch => simp [launches, ProbeAction.sends]
  | grant | answered | drop | report => simp [launches, ProbeAction.sends]

namespace Probing

variable {chain : Blockchain} {cancelled : Bool} {probing next : Probing} {free after : Nat}
  {place : Nat} {action : ProbeAction}

theorem pending_ofSession (token : Token) (chain : Blockchain) (session : Session)
    (position : Nat) :
    (ofSession token chain session).pending position = due session position := by
  unfold pending due
  by_cases hless : position < session.nodes.length
  · simp [ofSession, hless, Probe.pending]
  · simp [ofSession, hless]

theorem pending_step (hstep : probing.step chain cancelled free place action = some (next, after))
    (position : Nat) :
    (if place = position then action.sends else 0) + next.pending position ≤
        probing.pending position ∧
      (cancelled = false →
        (if place = position then action.sends else 0) + next.pending position =
          probing.pending position) := by
  obtain ⟨probe, moved, reports, hprobe, hmoves, rfl⟩ := step_eq_some_iff.mp hstep
  unfold pending
  -- only the probe at the place has changed
  rcases Decidable.em (place = position) with rfl | hne
  · rw [List.getElem?_set_self (List.getElem?_eq_some_iff.mp hprobe).1, hprobe, if_pos rfl]
    exact hmoves.pending
  · rw [List.getElem?_set_ne hne, if_neg hne, Nat.zero_add]
    exact ⟨Nat.le_refl _, fun _ => rfl⟩

theorem Sound.pending_of_isClosed (hsound : probing.Sound)
    (hclosed : probing.reports.isClosed = true) (position : Nat) :
    probing.pending position = 0 := by
  unfold pending
  split
  · next probe hprobe =>
      have hended := (hsound.of_isClosed hclosed probe (List.mem_of_getElem? hprobe)).1
      simp [Probe.pending, hended]
  · rfl

end Probing

theorem Launched.step {log : List TaskStep} {task next : ChainTask} {event : TaskEvent}
    (hlaunched : Launched log task) (haccounted : Accounted log task) (hsound : task.Sound)
    (hevolves : task.Evolves event next) : Launched (log ++ [⟨task, event, next⟩]) next := by
  unfold Launched at hlaunched
  unfold Accounted at haccounted
  unfold ChainTask.Sound at hsound
  obtain ⟨cancelled, action⟩ := event
  obtain ⟨commons, after, hmoves⟩ := hevolves
  cases hmoves with
  | called hstage hwaits hcall hreturned hfailed =>
      simp only [hstage] at hlaunched
      exact fun position => (hlaunched position).keep rfl
  -- nothing was due so far, and now every node is due a relay
  | obtained hstage hwaits hcall hreturned =>
      simp only [hstage] at hlaunched
      intro position
      rw [Probing.pending_ofSession]
      exact (hlaunched position).start.keep rfl
  | unobtained hstage | crashed hstage | abandoned hstage =>
      simp only [hstage] at hlaunched haccounted
      refine Or.inl ⟨?_, fun position => (hlaunched position).keep rfl⟩
      rw [filterMap_append_singleton, haccounted.1]
      simp [obtained?, hstage, ChainTask.goTo]
  | probed hstage hprobe =>
      simp only [hstage] at hlaunched
      intro position
      obtain ⟨-, -, hsession, -⟩ := Probing.count_step hprobe
      obtain ⟨hle, heq⟩ := Probing.pending_step hprobe position
      -- what the action of the probe sends is what the step sends to its position
      rw [← launches_probe task (task.goTo (.probing _))] at hle heq
      simp only [hsession]
      exact (hlaunched position).append hle heq
  | received hstage hreceive =>
      simp only [hstage] at hlaunched
      obtain ⟨⟨supporting?, reports⟩, -, rfl⟩ := Option.map_eq_some_iff.mp hreceive
      exact fun position => (hlaunched position).keep rfl
  | concluded hstage hclosed =>
      simp only [hstage] at hlaunched hsound
      intro position
      -- all probes have reported, so no relay is still to be sent
      have htallied := hlaunched position
      rw [hsound.pending_of_isClosed hclosed] at htallied
      exact htallied.keep rfl
  | delivered hstage hsend =>
      simp only [hstage] at hlaunched haccounted
      refine Or.inr ⟨_, ?_, fun position => (hlaunched position).keep rfl⟩
      rw [filterMap_append_singleton, haccounted.1]
      simp [obtained?, hstage]

theorem launched_of_trace {token : Token} {chain : Blockchain} {log : List TaskStep}
    {task : ChainTask}
    (htrace : Trace ChainTask.Evolves (ChainTask.ofChain token chain) log task) :
    Launched log task := by
  induction htrace with
  | start => exact fun position => ⟨Nat.le_refl _, fun _ => rfl⟩
  | step htrace hevolves ih =>
      obtain ⟨-, hsound, haccounted⟩ := accounted_of_trace htrace
      exact ih.step haccounted hsound hevolves

theorem Tallied.of_due {log : List TaskStep} {position pending : Nat} {session : Session}
    (htallied : Tallied log position pending (due session position))
    (hobtained : log.filterMap obtained? = [session]) :
    log.countP (launches position) ≤ 1 ∧
      (log.countP (launches position) ≠ 0 →
        ∃ session ∈ log.filterMap obtained?, position < session.nodes.length) := by
  obtain ⟨hbound, -⟩ := htallied
  unfold due at hbound
  split at hbound
  · next hless =>
      refine ⟨by omega, fun _ => ⟨session, ?_, hless⟩⟩
      rw [hobtained]
      exact List.mem_singleton_self _
  · exact ⟨by omega, fun hsome => absurd (by omega) hsome⟩

theorem Tallied.of_none {log : List TaskStep} {position : Nat}
    (htallied : Tallied log position 0 0) :
    log.countP (launches position) ≤ 1 ∧
      (log.countP (launches position) ≠ 0 →
        ∃ session ∈ log.filterMap obtained?, position < session.nodes.length) := by
  obtain ⟨hbound, -⟩ := htallied
  exact ⟨by omega, fun hsome => absurd (by omega) hsome⟩

/-- A node is sent one relay at most, and only a node of a session that was obtained is sent
one. -/
theorem Launched.le_one {log : List TaskStep} {task : ChainTask} (hlaunched : Launched log task)
    (haccounted : Accounted log task) (position : Nat) :
    log.countP (launches position) ≤ 1 ∧
      (log.countP (launches position) ≠ 0 →
        ∃ session ∈ log.filterMap obtained?, position < session.nodes.length) := by
  unfold Launched at hlaunched
  unfold Accounted at haccounted
  cases hstage : task.stage with
  | retrieving call =>
      simp only [hstage] at hlaunched
      exact (hlaunched position).of_none
  | probing probing =>
      simp only [hstage] at hlaunched haccounted
      exact (hlaunched position).of_due haccounted.1
  | probed session supporting =>
      simp only [hstage] at hlaunched haccounted
      exact (hlaunched position).of_due haccounted.1
  -- it may have ended without a session, or after all of its probes have reported
  | ended =>
      simp only [hstage] at hlaunched
      rcases hlaunched with ⟨-, hnone⟩ | ⟨session, hobtained, htallied⟩
      · exact (hnone position).of_none
      · exact (htallied position).of_due hobtained

/-- A task that ended without a cancellation has sent a relay to every node of its session. -/
theorem Launched.eq_one {log : List TaskStep} {task : ChainTask} (hlaunched : Launched log task)
    (hended : task.stage = .ended)
    (hundisturbed : ∀ moment ∈ log, moment.action.cancelled = false) {session : Session}
    (hobtained : session ∈ log.filterMap obtained?) {position : Nat}
    (hless : position < session.nodes.length) : log.countP (launches position) = 1 := by
  unfold Launched at hlaunched
  simp only [hended] at hlaunched
  rcases hlaunched with ⟨hnone, -⟩ | ⟨sole, hsole, htallied⟩
  · -- a task that ended without a session has not obtained this one
    rw [hnone] at hobtained
    cases hobtained
  · rw [hsole, List.mem_singleton] at hobtained
    subst hobtained
    have hexact := (htallied position).2 hundisturbed
    rwa [due, if_pos hless] at hexact

/-! ## Permits that are given back -/

/-- Does the action end the waiting of a probe, by an answer or by the cancellation? -/
def ProbeAction.judges : ProbeAction → Bool
  | .answered _ | .drop => true
  | .grant | .launch | .report => false

/-- The step gives the permit of a probe back, if it has one. -/
def GivesBack (moment : Step) (place position : Nat) : Prop :=
  ∃ before after, moment.before.probe? place position = some before ∧
    moment.after.probe? place position = some after ∧ after.permit = false ∧
    moment.after.commons.free = moment.before.commons.free + before.permits

theorem givesBack_of_judges {state next : State} {place position : Nat} {action : ProbeAction}
    (hmoves : state.Moves (.task place (.probe position action)) next)
    (hjudges : action.judges = true) :
    GivesBack ⟨state, .task place (.probe position action), next⟩ place position := by
  cases hmoves with
  | task htask hmoves =>
      cases hmoves with
      | probed hstage hprobe =>
          obtain ⟨probe, moved, reports, hplace, hmoves, rfl⟩ :=
            Probing.step_eq_some_iff.mp hprobe
          have hless := (List.getElem?_eq_some_iff.mp htask).1
          have hposition := (List.getElem?_eq_some_iff.mp hplace).1
          refine ⟨probe, moved, ?_, ?_, ?_⟩
          · simp [State.probe?, ChainTask.probe?, htask, hstage, hplace]
          · simp [State.probe?, ChainTask.probe?, hless, ChainTask.goTo, hposition]
          · cases hmoves with
            | answered | dropped => exact ⟨rfl, rfl⟩
            | granted | launched | reported => cases hjudges

/-! ## Guarantees -/

/-- What is guaranteed of the probes of a check with so many permits. -/
structure Guarantees (permits : Nat) (history : List Step) (state : State) : Prop where
  /-- The permits that probes hold and those that are free are all there are. -/
  permits_eq : state.permits + state.commons.free = permits
  /-- A probe holds a permit of its own while its relay is on the way. -/
  holds : ∀ place position probe, state.probe? place position = some probe →
    probe.stage = .relaying → probe.permit = true
  /-- So no more relays are on the way than there are permits. -/
  inFlight_le : state.inFlight ≤ permits
  /-- A probe gives its permit back with the answer of its node, whatever it is, and with the
  cancellation. -/
  givesBack : ∀ moment ∈ history, ∀ place position action,
    moment.action = .task place (.probe position action) → action.judges = true →
    GivesBack moment place position
  /-- The node at a position is sent one relay at most. -/
  sent_le : ∀ place position, launchesBy place position history ≤ 1
  /-- Only the nodes of a session that was obtained are sent relays. -/
  sent_to : ∀ place position, launchesBy place position history ≠ 0 →
    ∃ session ∈ obtainedBy place history, position < session.nodes.length
  /-- Without a cancellation every node of every session that was obtained is sent one. -/
  sent_eq : state.isOver = true → state.cancelled = false →
    ∀ place, ∀ session ∈ obtainedBy place history, ∀ position < session.nodes.length,
      launchesBy place position history = 1
  /-- A check that has not returned and waits for no service can go on by itself at any instant. -/
  canStep : state.isOver = false → ¬ state.Awaits → ∀ now,
    ∃ action next, action.isOwn now = true ∧ Possible step state action next
  /-- No schedule goes on for ever. -/
  ends : ∀ states : Nat → State, states 0 = state →
    ¬ ∀ n, ∃ action, Possible step (states n) action (states (n + 1))
  /-- A check that cannot go on, whatever is answered to it, has returned. -/
  isOver : (∀ action, action ≠ .cancel → step state action = none) → state.isOver = true
  /-- When a check has returned, all permits are free. -/
  free_eq : state.isOver = true → state.commons.free = permits

section Checks

variable {token : Token} {chains : List Blockchain} {permits : Nat} {sessions : SessionCache}
  {history : List Step} {state : State}

theorem launched_of_check
    (htrace : Trace (Possible step) (.initial token chains permits sessions) history state)
    {place : Nat} (hown : own place history ≠ []) :
    ∃ task, state.tasks[place]? = some task ∧ Accounted (own place history) task ∧
      Launched (own place history) task := by
  obtain ⟨chain, hchain⟩ := chain_of_own htrace hown
  obtain ⟨task, htask, htaskTrace⟩ := task_of_chain htrace hchain
  obtain ⟨-, -, haccounted⟩ := accounted_of_trace htaskTrace
  exact ⟨task, htask, haccounted, launched_of_trace htaskTrace⟩

theorem holds_of_sound (hsound : state.Sound permits) {place position : Nat}
    {probe : Probe} (hprobe : state.probe? place position = some probe) : probe.Sound := by
  obtain ⟨task, htask, hposition⟩ := Option.bind_eq_some_iff.mp hprobe
  have htaskSound := hsound.tasks task (List.mem_of_getElem? htask)
  unfold ChainTask.Sound at htaskSound
  unfold ChainTask.probe? at hposition
  split at hposition
  · next hstage =>
      simp only [hstage] at htaskSound
      exact htaskSound.probes probe (List.mem_of_getElem? hposition)
  · cases hposition

theorem sent_le_one
    (htrace : Trace (Possible step) (.initial token chains permits sessions) history state)
    (place position : Nat) :
    launchesBy place position history ≤ 1 ∧
      (launchesBy place position history ≠ 0 →
        ∃ session ∈ obtainedBy place history, position < session.nodes.length) := by
  -- a task that has not taken a step has sent nothing
  by_cases hown : own place history = []
  · simp [launchesBy, hown]
  · obtain ⟨task, -, haccounted, hlaunched⟩ := launched_of_check htrace hown
    exact hlaunched.le_one haccounted position

theorem guarantees_of_trace (hpositive : 0 < permits)
    (htrace : Trace (Possible step) (.initial token chains permits sessions) history state) :
    Guarantees permits history state where
  permits_eq := (sound_of_check htrace).permits_eq
  holds := by
    intro place position probe hprobe hrelaying
    have hsound := holds_of_sound (sound_of_check htrace) hprobe
    rwa [Probe.Sound, hrelaying] at hsound
  inFlight_le := (sound_of_check htrace).inFlight_le
  givesBack := by
    intro moment hmem place position action haction hjudges
    have hstep := htrace.steps_of_mem hmem
    obtain ⟨before, taken, after⟩ := moment
    subst haction
    exact givesBack_of_judges (step_eq_some_iff.mp hstep) hjudges
  sent_le place position := (sent_le_one htrace place position).1
  sent_to place position := (sent_le_one htrace place position).2
  sent_eq := by
    intro hover hcancelled place session hobtained position hless
    -- a task that has obtained a session has done something, so it exists
    have hown : own place history ≠ [] := by
      intro hnil
      simp [obtainedBy, hnil] at hobtained
    obtain ⟨task, htask, -, hlaunched⟩ := launched_of_check htrace hown
    have hended := ((sound_of_check htrace).of_isOver hover).1 task (List.mem_of_getElem? htask)
    exact hlaunched.eq_one hended (own_cancelled_eq_false htrace hcancelled) hobtained hless
  canStep := by
    intro hover hawaits now
    obtain ⟨action, next, hown, hmoves⟩ :=
      (sound_of_check htrace).canStep now hpositive hover hawaits
    exact ⟨action, next, hown, step_eq_some_iff.mpr hmoves⟩
  ends states _ := State.not_forever states
  isOver := (sound_of_check htrace).isOver_of_stuck hpositive
  free_eq := (sound_of_check htrace).free_eq_of_isOver

end Checks

/-- **Probing is bounded and comes to an end.**  A check begins exactly if there can be as many
permits as it is to have.  In every state of every check that has begun, whatever the sessions,
the answers, the order of steps and the moment of a cancellation, the probes keep within the
permits, no node is probed twice, and nothing keeps the check from its end. -/
theorem probing_guarantees (gateway : Gateway) (application : Application)
    (chains : List Blockchain) (sessions : SessionCache) :
    ((∃ start, gateway.startCheck application chains sessions = .ok start) ↔
        max 1 gateway.maxInFlight ≤ permitLimit) ∧
      ∀ start history state, gateway.startCheck application chains sessions = .ok start →
        Trace (Possible step) start history state →
        Guarantees (max 1 gateway.maxInFlight) history state := by
  refine ⟨Gateway.exists_startCheck_iff, fun start history state hstart htrace => ?_⟩
  obtain ⟨-, rfl⟩ := Gateway.startCheck_eq_ok_iff.mp hstart
  exact guarantees_of_trace (by omega) htrace

/-! ## Two nodes, one permit -/

def pairSession : Session :=
  { key := "pair", nodes := [{ address := "node-1" }, { address := "node-2" }] }

/-- The second node is asked first; the probe of the first one waits for its permit. -/
def oneByOne : List Action :=
  [.task 0 (.call (.look 0)), .task 0 (.call (.answer (.ok pairSession) 5)),
    .task 0 (.call .keep), .task 0 (.probe 1 .grant), .task 0 (.probe 1 .launch),
    .task 0 (.probe 1 (.answered (.error (.relayFailed "refused")))), .task 0 (.probe 0 .grant),
    .task 0 (.probe 1 .report), .task 0 (.probe 0 .launch), .task 0 .receive,
    .task 0 (.probe 0 (.answered (.ok { response := "1" }))), .task 0 (.probe 0 .report),
    .task 0 .receive, .task 0 .conclude, .task 0 .deliver, .collect]

def pairStart : State :=
  .initial (.ofApplication default .freemium) [{ id := "0021", identity := "1" }] 1 {}

/-- The general statement at this run: both nodes are probed, and the permit is free again. -/
theorem probing_guarantees_pair :
    Gateway.startCheck { maxInFlight := 1 } default [{ id := "0021", identity := "1" }] {} =
        .ok pairStart ∧
      ∃ history state, Trace (Possible step) pairStart history state ∧
        launchesBy 0 0 history = 1 ∧ launchesBy 0 1 history = 1 ∧ state.commons.free = 1 := by
  have hstart : Gateway.startCheck { maxInFlight := 1 } default
      [{ id := "0021", identity := "1" }] {} = .ok pairStart :=
    Gateway.startCheck_eq_ok_iff.mpr ⟨by decide, rfl⟩
  have hends : (takeAll step pairStart oneByOne).map (fun taken =>
      (taken.2.isOver, taken.2.cancelled, obtainedBy 0 taken.1)) =
        some (true, false, [pairSession]) := by
    decide
  obtain ⟨⟨history, state⟩, htaken, hends⟩ := Option.map_eq_some_iff.mp hends
  simp only [Prod.mk.injEq] at hends
  obtain ⟨hover, hcancelled, hobtained⟩ := hends
  have htrace := Trace.of_takeAll htaken
  have hguarantees := (probing_guarantees _ _ _ _).2 _ _ _ hstart htrace
  have hsent : ∀ position < 2, launchesBy 0 position history = 1 :=
    hguarantees.sent_eq hover hcancelled 0 pairSession
      (by rw [hobtained]; exact List.mem_singleton_self _)
  exact ⟨hstart, history, state, htrace, hsent 0 (by decide), hsent 1 (by decide),
    hguarantees.free_eq hover⟩

/-! ## A check with too many permits -/

/-- A configuration that asks for one permit more than there can be. -/
def overcommitted : Config := { check := { maxInFlight := 0x2000000000000000 } }

theorem startCheck_overcommitted (repository : Repository) (application : Application)
    (chains : List Blockchain) (sessions : SessionCache) :
    (Gateway.ofConfig overcommitted repository).startCheck application chains sessions =
      .error .permitOverflow :=
  State.start_eq_error_iff.mpr ⟨rfl, by simp [Gateway.ofConfig, overcommitted, permitLimit]⟩

/-- With this configuration, which is accepted, no check begins. -/
theorem accepted_check_never_begins :
    overcommitted.validate = .ok () ∧
      ∀ (repository : Repository) (application : Application) (chains : List Blockchain)
        (sessions : SessionCache),
        ¬ ∃ start, (Gateway.ofConfig overcommitted repository).startCheck application chains
          sessions = .ok start := by
  refine ⟨rfl, ?_⟩
  rintro repository application chains sessions ⟨start, hstart⟩
  rw [startCheck_overcommitted] at hstart
  cases hstart

end ChainGateway.Check
