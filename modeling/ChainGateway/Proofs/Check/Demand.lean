import Mathlib.Data.List.Nodup
import ChainGateway.Proofs.Check.Progress

/-!
# What tasks wait for

A task may wait for its session, a probe for the answer of its node, and another one for a permit.
`State.demand` counts what is waited for.  Every step settles what its action answers, raises what
it asks for and leaves all other demands as they are (`State.Moves.demand`), so whoever runs a
check and keeps track of what was asked can serve the demands one by one.

This is said of checks that are not cancelled: a cancellation ends whatever waits.
-/

namespace ChainGateway.Check

/-- What a probe may wait for: an answer of its node, or a permit. -/
inductive ProbeDemand where
  | answer
  | permit
  deriving DecidableEq

/-- What a task may wait for: its session, or something for the probe at a position. -/
inductive Demand where
  | session
  | probe (position : Nat) (demand : ProbeDemand)
  deriving DecidableEq

/-! ## Definitions -/

/-- One if the probe waits for what is named. -/
def Probe.demand (probe : Probe) : ProbeDemand → Nat
  | .answer => if probe.stage = .relaying then 1 else 0
  | .permit => if probe.stage = .waiting ∧ probe.permit = false then 1 else 0

def ChainTask.demand (task : ChainTask) : Demand → Nat
  | .session =>
      match task.stage with
      | .retrieving call => if call.stage = .dispatching then 1 else 0
      | _ => 0
  | .probe position demand => (task.probe? position).elim 0 fun probe => probe.demand demand

/-- One if the task at a place waits for what is named. -/
def State.demand (state : State) (item : Nat × Demand) : Nat :=
  state.tasks[item.1]?.elim 0 fun task => task.demand item.2

/-- What an action of a probe answers. -/
def ProbeAction.settled : ProbeAction → List ProbeDemand
  | .grant => [.permit]
  | .answered _ => [.answer]
  | .launch | .drop | .report => []

def ProbeAction.raised : ProbeAction → List ProbeDemand
  | .launch => [.answer]
  | .grant | .answered _ | .drop | .report => []

/-- A permit for each probe of a task. -/
def ChainTask.permitsDue (task : ChainTask) : List Demand :=
  match task.stage with
  | .probing probing => (List.range probing.probes.length).map (.probe · .permit)
  | _ => []

def TaskAction.settled : TaskAction → List Demand
  | .call (.answer _ _) => [.session]
  | .probe position action => action.settled.map (.probe position)
  | _ => []

/-- What an action that led to the task asks for. -/
def TaskAction.raised (next : ChainTask) : TaskAction → List Demand
  | .call (.look _) =>
      match next.stage with
      | .retrieving _ => [.session]
      | _ => next.permitsDue
  | .call .keep => next.permitsDue
  | .probe position action =>
      (next.probe? position).elim [] fun _ => action.raised.map (.probe position)
  | _ => []

/-- What an action answers, each with the place of the task that waited for it. -/
def Action.settled : Action → List (Nat × Demand)
  | .task place action => action.settled.map (place, ·)
  | _ => []

/-- What an action that led to the state asks for, each with the place of the task that waits for
it. -/
def Action.raised (next : State) : Action → List (Nat × Demand)
  | .task place action =>
      next.tasks[place]?.elim [] fun task => (action.raised task).map (place, ·)
  | _ => []

/-- The answers of the services. -/
inductive Action.IsAnswer : Action → Prop
  | session (place : Nat) (outcome : Except Error Session) (now : Instant) :
      IsAnswer (.task place (.call (.answer outcome now)))
  | relay (place position : Nat) (outcome : Except Error RelayAnswer) :
      IsAnswer (.task place (.probe position (.answered outcome)))

theorem Action.IsAnswer.ne_cancel {action : Action} (hanswer : action.IsAnswer) :
    action ≠ .cancel := by
  rintro rfl
  cases hanswer

theorem Action.IsAnswer.ne_grant {action : Action} (hanswer : action.IsAnswer)
    (place position : Nat) : action ≠ .task place (.probe position .grant) := by
  rintro rfl
  cases hanswer

/-! ## Counts of demands -/

theorem count_map_probe (position : Nat) (demands : List ProbeDemand) (demand : Demand) :
    (demands.map (Demand.probe position)).count demand =
      match demand with
      | .session => 0
      | .probe other demand => if position = other then demands.count demand else 0 := by
  induction demands with
  | nil => cases demand <;> simp
  | cons first rest ih =>
      rw [List.map_cons, List.count_cons, ih]
      cases demand with
      | session => simp
      | probe other demand =>
          by_cases hposition : position = other
          · simp [hposition, List.count_cons]
          · simp [hposition]

theorem count_map_place (place : Nat) (demands : List Demand) (item : Nat × Demand) :
    (demands.map (place, ·)).count item = if place = item.1 then demands.count item.2 else 0 := by
  obtain ⟨other, demand⟩ := item
  induction demands with
  | nil => simp
  | cons first rest ih =>
      rw [List.map_cons, List.count_cons, ih]
      by_cases hplace : place = other
      · simp [hplace, List.count_cons]
      · simp [hplace]

theorem count_permitsDue {task : ChainTask} {probing : Probing}
    (hstage : task.stage = .probing probing) (demand : Demand) : task.permitsDue.count demand =
      match demand with
      | .probe position .permit => if position < probing.probes.length then 1 else 0
      | _ => 0 := by
  simp only [ChainTask.permitsDue, hstage]
  split
  · next position =>
      split
      · next hless =>
          -- each position is named once
          refine List.count_eq_one_of_mem (List.nodup_range.map ?_) (by simpa using hless)
          exact fun _ _ heq => (Demand.probe.inj heq).1
      · next hless => exact List.count_eq_zero.mpr (by simpa using hless)
  · next hother =>
      rw [List.count_eq_zero]
      intro hmem
      obtain ⟨position, -, heq⟩ := List.mem_map.mp hmem
      exact hother position heq.symm

theorem TaskAction.raised_probe_eq_nil {next : ChainTask} {position : Nat} {action : ProbeAction}
    (hraised : action.raised = []) : (TaskAction.probe position action).raised next = [] := by
  rw [TaskAction.raised]
  cases next.probe? position <;> simp [hraised]

theorem Action.raised_eq_nil {next : State} {place : Nat} {action : TaskAction}
    (hraised : ∀ task, action.raised task = []) : (Action.task place action).raised next = [] := by
  rw [Action.raised]
  cases next.tasks[place]? <;> simp [hraised]

/-- No action answers something and asks for something else at once. -/
theorem Action.raised_eq_nil_of_settled {next : State} {action : Action}
    (hsettled : action.settled ≠ []) : action.raised next = [] := by
  cases action with
  | cancel | collect => rfl
  | task place action =>
      refine raised_eq_nil fun task => ?_
      cases action with
      | call action =>
          cases action with
          | answer => rfl
          | look | keep => exact absurd rfl hsettled
      | probe position action =>
          refine TaskAction.raised_probe_eq_nil ?_
          cases action with
          | grant | answered => rfl
          | launch | drop | report => exact absurd rfl hsettled
      | abandon | receive | conclude | deliver => rfl

/-! ## Steps -/

theorem Probe.Moves.demand {chain : Blockchain} {probe next : Probe}
    {commons after : ProbeCommons} {action : ProbeAction}
    (hmoves : probe.Moves chain false commons action next after) (demand : ProbeDemand) :
    next.demand demand + action.settled.count demand =
      probe.demand demand + action.raised.count demand := by
  cases hmoves with
  | granted hstage hpermit hfree =>
      cases demand <;>
        simp [Probe.demand, ProbeAction.settled, ProbeAction.raised, hstage, hpermit]
  | launched hstage hpermit hcancelled =>
      cases demand <;>
        simp [Probe.demand, ProbeAction.settled, ProbeAction.raised, hstage, hpermit]
  | answered outcome hstage hcancelled =>
      cases demand <;> simp [Probe.demand, ProbeAction.settled, ProbeAction.raised, hstage]
  | dropped hstage hcancelled => cases hcancelled
  | reported hstage hsend =>
      cases demand <;> simp [Probe.demand, ProbeAction.settled, ProbeAction.raised, hstage]

section Tasks

variable {task next : ChainTask}

theorem ChainTask.dispatching_of_demand (hdemand : task.demand .session ≠ 0) :
    ∃ call, task.stage = .retrieving call ∧ call.stage = .dispatching := by
  simp only [ChainTask.demand] at hdemand
  split at hdemand
  · next call hstage =>
      exact ⟨call, hstage, Decidable.byContradiction fun hother => hdemand (if_neg hother)⟩
  · exact absurd rfl hdemand

theorem ChainTask.probe_of_demand {position : Nat} {demand : ProbeDemand}
    (hdemand : task.demand (.probe position demand) ≠ 0) :
    ∃ probing probe, task.stage = .probing probing ∧ probing.probes[position]? = some probe ∧
      probe.demand demand ≠ 0 := by
  rw [ChainTask.demand] at hdemand
  cases hprobe : task.probe? position with
  | none => exact absurd (by rw [hprobe, Option.elim_none]) hdemand
  | some probe =>
      rw [hprobe, Option.elim_some] at hdemand
      unfold probe? at hprobe
      split at hprobe
      · next probing hstage => exact ⟨probing, probe, hstage, hprobe, hdemand⟩
      · cases hprobe

/-- A task that neither waits for its session nor runs probes waits for nothing. -/
theorem ChainTask.demand_eq_zero {demand : Demand}
    (hcall : ∀ call, task.stage = .retrieving call → call.stage ≠ .dispatching)
    (hprobing : ∀ probing, task.stage ≠ .probing probing) : task.demand demand = 0 := by
  refine Decidable.byContradiction fun hdemand => ?_
  cases demand with
  | session =>
      obtain ⟨call, hstage, hdispatching⟩ := dispatching_of_demand hdemand
      exact hcall call hstage hdispatching
  | probe position demand =>
      obtain ⟨probing, -, hstage, -⟩ := probe_of_demand hdemand
      exact hprobing probing hstage

/-- The probes of a new session wait for their permits. -/
theorem ChainTask.demand_ofSession (task : ChainTask) (session : Session) (demand : Demand) :
    (task.startProbes session).demand demand =
      (task.startProbes session).permitsDue.count demand := by
  rw [count_permitsDue rfl]
  cases demand with
  | session => rfl
  | probe position demand =>
      simp only [ChainTask.demand, probe?, startProbes, goTo, Probing.ofSession,
        List.getElem?_map, List.length_map]
      by_cases hless : position < session.nodes.length <;> cases demand <;>
        simp [hless, Probe.demand]

namespace ChainTask.Moves

variable {commons after : TaskCommons} {action : TaskAction}

theorem demand (hmoves : task.Moves false commons action next after) (hsound : task.Sound)
    (demand : Demand) :
    next.demand demand + action.settled.count demand =
      task.demand demand + (action.raised next).count demand := by
  unfold ChainTask.Sound at hsound
  cases hmoves with
  | called hstage hwaits hcall hreturned hfailed =>
      cases hcall with
      | found => exact absurd rfl (hreturned _)
      | missed hbegun =>
          cases demand <;>
            simp [ChainTask.demand, probe?, TaskAction.settled, TaskAction.raised, goTo,
              SessionCall.goTo, hstage, hbegun]
      | dispatched hdispatching =>
          cases demand <;>
            simp [ChainTask.demand, probe?, TaskAction.settled, TaskAction.raised, goTo,
              SessionCall.goTo, hstage, hdispatching]
      | refused => exact absurd rfl (hfailed _)
      | kept => exact absurd rfl (hreturned _)
  | obtained hstage hwaits hcall hreturned =>
      rw [demand_ofSession]
      cases hcall with
      | found hbegun hlookup =>
          rw [demand_eq_zero (by simp [hstage, hbegun]) (by simp [hstage])]
          simp [TaskAction.settled, TaskAction.raised, startProbes, goTo]
      | missed | dispatched | refused => cases hreturned
      | kept hdispatched hinsert =>
          rw [demand_eq_zero (by simp [hstage, hdispatched]) (by simp [hstage])]
          simp [TaskAction.settled, TaskAction.raised]
  | unobtained hstage hwaits hcall hfailed =>
      cases hcall with
      | refused hdispatching =>
          cases demand <;>
            simp [ChainTask.demand, probe?, TaskAction.settled, TaskAction.raised, goTo, hstage,
              hdispatching]
      | found | missed | dispatched | kept => cases hfailed
  | crashed hstage hdispatched hinsert =>
      -- whoever keeps a session waits for nothing, and neither does a task that has ended
      rw [demand_eq_zero (by simp [goTo]) (by simp [goTo]),
        demand_eq_zero (by simp [hstage, hdispatched]) (by simp [hstage])]
      simp [TaskAction.settled, TaskAction.raised, permitsDue, goTo]
  | abandoned hstage hcancelled => cases hcancelled
  | @probed probing moved position free action hstage hprobe =>
      obtain ⟨probe, probeAfter, reports, hposition, hmoves, rfl⟩ :=
        Probing.step_eq_some_iff.mp hprobe
      have hless := (List.getElem?_eq_some_iff.mp hposition).1
      cases demand with
      | session =>
          simp [ChainTask.demand, probe?, TaskAction.settled, TaskAction.raised, goTo, hstage,
            hless, count_map_probe]
      | probe other demand =>
          simp only [ChainTask.demand, probe?, TaskAction.settled, TaskAction.raised, goTo, hstage,
            List.getElem?_set_self hless, Option.elim_some, count_map_probe]
          split
          · next hsame =>
              subst hsame
              rw [List.getElem?_set_self hless, hposition]
              exact hmoves.demand demand
          · next hother => simp [List.getElem?_set_ne hother]
  | received hstage hreceive =>
      obtain ⟨⟨supporting?, reports⟩, -, rfl⟩ := Option.map_eq_some_iff.mp hreceive
      cases demand <;>
        simp [ChainTask.demand, probe?, TaskAction.settled, TaskAction.raised, goTo, hstage]
  | @concluded probing hstage hclosed =>
      rw [hstage] at hsound
      -- when all probes have reported none of them waits
      have hended := Probing.Sound.of_isClosed hsound hclosed
      cases demand with
      | session => simp [ChainTask.demand, TaskAction.settled, TaskAction.raised, goTo, hstage]
      | probe position demand =>
          simp only [ChainTask.demand, probe?, TaskAction.settled, TaskAction.raised, goTo, hstage]
          cases hprobe : probing.probes[position]? with
          | none => rfl
          | some probe =>
              have hstage := (hended probe (List.mem_of_getElem? hprobe)).1
              cases demand <;> simp [Probe.demand, hstage]
  | delivered hstage hsend =>
      cases demand <;>
        simp [ChainTask.demand, probe?, TaskAction.settled, TaskAction.raised, goTo, hstage]

end ChainTask.Moves

end Tasks

namespace State

variable {permits : Nat} {state next : State} {action : Action}

/-- A step settles what its action answers and raises what it asks for. -/
theorem Moves.demand (hmoves : state.Moves action next) (hsound : state.Sound permits)
    (hcancelled : state.cancelled = false) (item : Nat × Demand) :
    next.demand item + action.settled.count item =
      state.demand item + (action.raised next).count item := by
  cases hmoves with
  | cancelled | collected => rfl
  | @task place task moved commons action htask hmoves =>
      rw [hcancelled] at hmoves
      have hless := (List.getElem?_eq_some_iff.mp htask).1
      simp only [State.demand, Action.settled, Action.raised, List.getElem?_set_self hless,
        Option.elim_some, count_map_place]
      split
      · next hsame =>
          subst hsame
          rw [List.getElem?_set_self hless, htask]
          exact hmoves.demand (hsound.tasks task (List.mem_of_getElem? htask)) item.2
      · next hother => simp [List.getElem?_set_ne hother]

theorem exists_task_of_demand {place : Nat} {demand : Demand}
    (hdemand : state.demand (place, demand) ≠ 0) :
    ∃ task, state.tasks[place]? = some task ∧ task.demand demand ≠ 0 := by
  unfold State.demand at hdemand
  cases htask : state.tasks[place]? with
  | none => simp [htask] at hdemand
  | some task => exact ⟨task, rfl, by simpa [htask] using hdemand⟩

theorem demand_initial (token : Token) (chains : List Blockchain) (permits : Nat)
    (sessions : SessionCache) (item : Nat × Demand) :
    (initial token chains permits sessions).demand item = 0 := by
  simp only [State.demand, initial, List.getElem?_map]
  cases chains[item.1]? with
  | none => rfl
  | some chain =>
      have hnone : (ChainTask.ofChain token chain).demand item.2 = 0 :=
        ChainTask.demand_eq_zero (by simp [ChainTask.ofChain]) (by simp [ChainTask.ofChain])
      exact hnone

/-! ## What is demanded is possible -/

/-- What an action answers is waited for if the action is possible. -/
theorem Moves.demand_ne_zero (hmoves : state.Moves action next) (hsound : state.Sound permits)
    (hcancelled : state.cancelled = false) {item : Nat × Demand}
    (hsettled : action.settled = [item]) : state.demand item ≠ 0 := by
  -- the action asks for nothing, so what it answers was asked for before
  have hdemand := hmoves.demand hsound hcancelled item
  rw [Action.raised_eq_nil_of_settled (by simp [hsettled]), hsettled, List.count_singleton_self,
    List.count_nil] at hdemand
  omega

/-- An answer of a service that is waited for is possible. -/
theorem exists_of_isAnswer (hanswer : action.IsAnswer)
    (hdemand : ∀ item ∈ action.settled, state.demand item ≠ 0)
    (hcancelled : state.cancelled = false) : ∃ next, state.Moves action next := by
  cases hanswer with
  | session place outcome now =>
      obtain ⟨task, htask, hsession⟩ := exists_task_of_demand (hdemand _ List.mem_cons_self)
      obtain ⟨call, hstage, hcall⟩ := ChainTask.dispatching_of_demand hsession
      exact exists_answer htask hstage hcall hcancelled outcome now
  | relay place position outcome =>
      obtain ⟨task, htask, hrelay⟩ := exists_task_of_demand (hdemand _ List.mem_cons_self)
      obtain ⟨probing, probe, hstage, hprobe, hasked⟩ := ChainTask.probe_of_demand hrelay
      have hrelaying : probe.stage = .relaying := by
        simpa [Probe.demand] using hasked
      exact exists_answered htask hstage hprobe hrelaying hcancelled outcome

/-- A permit that is waited for can be given as long as one is free. -/
theorem exists_grant {place position : Nat}
    (hdemand : state.demand (place, .probe position .permit) ≠ 0) (hfree : 0 < state.commons.free) :
    ∃ next, state.Moves (.task place (.probe position .grant)) next := by
  obtain ⟨task, htask, hpermit⟩ := exists_task_of_demand hdemand
  obtain ⟨probing, probe, hstage, hprobe, hqueued⟩ := ChainTask.probe_of_demand hpermit
  have hwaiting : probe.stage = .waiting ∧ probe.permit = false := by
    simpa [Probe.demand] using hqueued
  obtain ⟨moved, commons, hmoves⟩ :=
    Probe.Moves.of_task hstage hprobe (.granted hwaiting.1 hwaiting.2 hfree)
  exact ⟨_, .task htask hmoves⟩

theorem Moves.free_pos {place position : Nat}
    (hmoves : state.Moves (.task place (.probe position .grant)) next) :
    0 < state.commons.free := by
  cases hmoves with
  | task htask hmoves =>
      cases hmoves with
      | probed hstage hprobe =>
          obtain ⟨_, _, _, _, hmoves, _⟩ := Probing.step_eq_some_iff.mp hprobe
          cases hmoves with
          | granted hwaiting hpermit hfree => exact hfree

end State

end ChainGateway.Check
