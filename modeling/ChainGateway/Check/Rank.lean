import ChainGateway.Check.Moves

/-!
# How much of a check is left

Every action brings a check closer to its end.  An action of a probe or of a task uses up a part
of the budget that is left, and a message that is sent costs less than the sender had left.  Only
a session that is obtained brings new work, the probes of its nodes; but then one task fewer is
left that can obtain one.  So the number of tasks that call for a session, and after it the
budget, decrease in the order that looks at the second only when the first is unchanged
(`State.Moves.remaining`).
-/

namespace ChainGateway.Check

/-! ## Sums over lists -/

@[simp] theorem total_nil {α : Type} (count : α → Nat) : total count [] = 0 := rfl

@[simp] theorem total_cons {α : Type} (count : α → Nat) (item : α) (items : List α) :
    total count (item :: items) = count item + total count items := rfl

/-- Replacing one item changes the sum by the difference of the two. -/
theorem total_set {α : Type} (count : α → Nat) {items : List α} {place : Nat} {item : α}
    (hitem : items[place]? = some item) (other : α) :
    total count (items.set place other) + count item = total count items + count other := by
  induction items generalizing place with
  | nil => simp at hitem
  | cons first rest ih =>
      cases place with
      | zero =>
          simp only [List.getElem?_cons_zero, Option.some.injEq] at hitem
          subst hitem
          simp only [List.set_cons_zero, total_cons]
          omega
      | succ place =>
          simp only [List.getElem?_cons_succ] at hitem
          simp only [List.set_cons_succ, total_cons]
          have := ih hitem
          omega

/-! ## What is left -/

/-- What a probe has left to do. -/
def Probe.budget (probe : Probe) : Nat :=
  match probe.stage with
  | .waiting => if probe.permit then 4 else 5
  | .relaying => 3
  | .judged _ => 2
  | .ended => 0

/-- What the probes of a session, and those who wait for them, have left to do. -/
def Probing.budget (probing : Probing) : Nat :=
  total Probe.budget probing.probes + probing.reports.queue.length + 3

/-- What a call has left to do. -/
def callBudget (call : SessionCall) : Nat :=
  match call.stage with
  | .begun => 3
  | .dispatching => 2
  | .dispatched _ _ => 1
  | .returned _ | .failed _ => 0

/-- What a task has left to do, apart from probes not yet known. -/
def ChainTask.budget (task : ChainTask) : Nat :=
  match task.stage with
  | .retrieving call => callBudget call
  | .probing probing => probing.budget
  | .probed _ _ => 2
  | .ended => 0

/-- One for a task that calls for a session. -/
def ChainTask.retrieving (task : ChainTask) : Nat :=
  match task.stage with
  | .retrieving _ => 1
  | _ => 0

/-- What the check has left to do, apart from probes not yet known. -/
def State.budget (state : State) : Nat :=
  total ChainTask.budget state.tasks + state.commons.deliveries.queue.length +
    if state.cancelled then 0 else 1

/-- How many tasks call for a session. -/
def State.retrieving (state : State) : Nat := total ChainTask.retrieving state.tasks

/-! ## Every action takes something away -/

theorem Channel.length_send? {α : Type} {channel after : Channel α} {message : α}
    (hsend : channel.send? message = some after) :
    after.queue.length = channel.queue.length + 1 := by
  obtain ⟨-, hafter⟩ := Option.ite_none_right_eq_some.mp hsend
  cases hafter
  simp

theorem Channel.queue_receive? {α : Type} {channel after : Channel α} {message : α}
    (hreceive : channel.receive? = some (message, after)) :
    channel.queue = message :: after.queue := by
  unfold Channel.receive? at hreceive
  split at hreceive
  · cases hreceive
  · next hqueue =>
      cases hreceive
      exact hqueue

theorem Probe.Moves.budget_lt {chain : Blockchain} {cancelled : Bool} {probe next : Probe}
    {commons after : ProbeCommons} {action : ProbeAction}
    (hmoves : probe.Moves chain cancelled commons action next after) :
    next.budget + after.reports.queue.length < probe.budget + commons.reports.queue.length := by
  cases hmoves with
  | granted hstage hpermit hfree => simp [Probe.budget, hstage, hpermit]
  | launched hstage hpermit hcancelled => simp [Probe.budget, hstage, hpermit]
  | answered outcome hstage hcancelled => simp [Probe.budget, hstage]
  | dropped hstage hcancelled =>
      rcases hstage with hstage | hstage
      · simp only [Probe.budget, hstage]
        split <;> simp
      · simp [Probe.budget, hstage]
  | reported hstage hsend =>
      have hlength := Channel.length_send? hsend
      simp only [Probe.budget, hstage]
      omega

theorem Probing.budget_step {chain : Blockchain} {cancelled : Bool} {probing next : Probing}
    {free after place : Nat} {action : ProbeAction}
    (hstep : probing.step chain cancelled free place action = some (next, after)) :
    next.budget < probing.budget := by
  obtain ⟨probe, moved, reports, hprobe, hmoves, rfl⟩ := Probing.step_eq_some_iff.mp hstep
  have hless := hmoves.budget_lt
  have htotal := total_set Probe.budget hprobe moved
  simp only [Probing.budget]
  simp only at hless
  omega

theorem callBudget_lt {call next : SessionCall} {cache after : SessionCache}
    {action : SessionCall.Action} (hmoves : call.Moves cache action next after) :
    callBudget next < callBudget call := by
  cases hmoves with
  | found hstage hlookup => simp [callBudget, SessionCall.goTo, hstage]
  | missed hstage hlookup => simp [callBudget, SessionCall.goTo, hstage]
  | dispatched hstage => simp [callBudget, SessionCall.goTo, hstage]
  | refused hstage => simp [callBudget, SessionCall.goTo, hstage]
  | kept hstage hinsert => simp [callBudget, SessionCall.goTo, hstage]

/-- A step of a task ends its call for a session, or uses up a part of the budget. -/
theorem ChainTask.Moves.remaining {cancelled : Bool} {task next : ChainTask}
    {commons after : TaskCommons} {action : TaskAction}
    (hmoves : task.Moves cancelled commons action next after) :
    next.retrieving < task.retrieving ∨
      next.retrieving = task.retrieving ∧
        next.budget + after.deliveries.queue.length <
          task.budget + commons.deliveries.queue.length := by
  cases hmoves with
  | called hstage hwaits hcall hreturned hfailed =>
      have hless := callBudget_lt hcall
      refine Or.inr ⟨by simp [ChainTask.retrieving, ChainTask.goTo, hstage], ?_⟩
      simp only [ChainTask.budget, ChainTask.goTo, hstage]
      omega
  -- with a session its probes are new work, but one task fewer calls for a session
  | obtained hstage hwaits hcall hreturned =>
      exact Or.inl (by simp [ChainTask.retrieving, ChainTask.startProbes, ChainTask.goTo, hstage])
  | unobtained hstage | crashed hstage | abandoned hstage =>
      exact Or.inl (by simp [ChainTask.retrieving, ChainTask.goTo, hstage])
  | probed hstage hprobe =>
      have hless := Probing.budget_step hprobe
      refine Or.inr ⟨by simp [ChainTask.retrieving, ChainTask.goTo, hstage], ?_⟩
      simp only [ChainTask.budget, ChainTask.goTo, hstage]
      omega
  | received hstage hreceive =>
      obtain ⟨⟨supporting?, reports⟩, hmessage, rfl⟩ := Option.map_eq_some_iff.mp hreceive
      refine Or.inr ⟨by simp [ChainTask.retrieving, ChainTask.goTo, hstage], ?_⟩
      simp [ChainTask.budget, ChainTask.goTo, hstage, Probing.budget,
        Channel.queue_receive? hmessage]
  | concluded hstage hclosed =>
      refine Or.inr ⟨by simp [ChainTask.retrieving, ChainTask.goTo, hstage], ?_⟩
      simp only [ChainTask.budget, ChainTask.goTo, hstage, Probing.budget]
      omega
  -- what is sent is in the queue now, and the sender had more than that left
  | delivered hstage hsend =>
      have hlength := Channel.length_send? hsend
      refine Or.inr ⟨by simp [ChainTask.retrieving, ChainTask.goTo, hstage], ?_⟩
      simp only [ChainTask.budget, ChainTask.goTo, hstage]
      omega

/-- A step of a check ends a call for a session, or uses up a part of the budget. -/
theorem State.Moves.remaining {state next : State} {action : Action}
    (hmoves : state.Moves action next) :
    next.retrieving < state.retrieving ∨
      next.retrieving = state.retrieving ∧ next.budget < state.budget := by
  cases hmoves with
  | cancelled hcancelled =>
      exact Or.inr ⟨rfl, by simp [State.budget, hcancelled]⟩
  | @task place task moved commons action htask hmoves =>
      have hretrieving := total_set ChainTask.retrieving htask moved
      have hbudget := total_set ChainTask.budget htask moved
      simp only [State.retrieving, State.budget]
      rcases hmoves.remaining with hless | ⟨hsame, hless⟩
      · exact Or.inl (by omega)
      · exact Or.inr ⟨by omega, by omega⟩
  | collected hreceive =>
      refine Or.inr ⟨rfl, ?_⟩
      simp only [State.budget, Channel.queue_receive? hreceive, List.length_cons]
      omega

end ChainGateway.Check
