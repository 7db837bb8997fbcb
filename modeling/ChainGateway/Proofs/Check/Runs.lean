import Mathlib.Data.List.Perm.Basic
import ChainGateway.Proofs.Check.Demand
import ChainGateway.Proofs.Check.Ready

/-!
# Runs of a check are schedules

`Gateway.check` runs a check against the services with a clock.  Every turn of the run is a step,
so the run follows a schedule, and what is said about schedules is said about the running check.
The run does not give up early either: when no turn is left, the check has returned
(`trace_of_check`).

## Strategy

The answers on their way and the queue for permits together are what the tasks wait for
(`Run.Paced`).  So every turn a run decides on is possible (`Run.Turns.exists_take`), and if it
decides on none, nothing is possible any more, which only is so when the check has returned.
-/

namespace ChainGateway.Check

/-! ## What a run has in store -/

/-- What the answers on their way, and the queue for permits, are for. -/
def Run.supply {σ : Type} (run : Run σ) : List (Nat × Demand) :=
  run.arrivals.flatMap (fun arrival => arrival.action.settled) ++
    run.queue.map fun (place, position) => (place, .probe position .permit)

/-- A run has in store what its tasks wait for. -/
structure Run.Paced {σ : Type} (run : Run σ) : Prop where
  answers : ∀ arrival ∈ run.arrivals, arrival.action.IsAnswer
  supply : ∀ item, run.supply.count item = run.state.demand item

/-- What a run can decide to do next. -/
inductive Run.Turns {σ : Type} (run : Run σ) : Turn → Prop
  | ready {action : Action} (hready : run.state.ready? = some action) : Turns run (.act action)
  | arrived {instant : Instant} {arrival : Arrival} (hcancelled : run.state.cancelled = false)
      (hmem : arrival ∈ run.arrivals) (hdue : arrival.due ≤ instant) :
      Turns run (.receive instant)
  | begun {place : Nat} (hcancelled : run.state.cancelled = false)
      (hbegun : run.state.firstBegun? = some place) :
      Turns run (.act (.task place (.call (.look run.now))))
  | granted {place position : Nat} {queue : List (Nat × Nat)}
      (hcancelled : run.state.cancelled = false) (hqueue : run.queue = (place, position) :: queue)
      (hfree : 0 < run.state.commons.free) :
      Turns run (.act (.task place (.probe position .grant)))
  | cancelled {instant : Instant} (hcancelled : run.state.cancelled = false)
      (hcancelAt : run.cancelAt? = some instant) : Turns run (.cancelAt instant)

namespace Run

variable {σ : Type} {permits : Nat} {backend : Backend σ} {run next last : Run σ} {turn : Turn}
  {action : Action}

/-! ## What a run decides to do -/

theorem turns_of_nextWait? (hcancelled : run.state.cancelled = false)
    (hturn : run.nextWait? = some turn) : run.Turns turn := by
  have harrived : ∀ due, nextDue? run.arrivals = some due → run.Turns (.receive due) := by
    intro due hdue
    obtain ⟨arrival, hmem, rfl⟩ := List.mem_map.mp (List.min?_mem hdue)
    exact .arrived hcancelled hmem (Nat.le_refl _)
  unfold nextWait? at hturn
  split at hturn
  · cases hturn
  · next due instant hdue hcancelAt =>
      split at hturn <;> cases hturn
      · exact .cancelled hcancelled hcancelAt
      · exact harrived due hdue
  · next due hdue _ =>
      cases hturn
      exact harrived due hdue

theorem turns_of_nextTurn? (hturn : run.nextTurn? = some turn) : run.Turns turn := by
  unfold nextTurn? at hturn
  split at hturn
  · next hready =>
      cases hturn
      exact .ready hready
  · split at hturn
    · cases hturn
    · next hcancelled =>
        have hcancelled := eq_false_of_ne_true hcancelled
        split at hturn
        · next hdue =>
            cases hturn
            obtain ⟨arrival, hmem, hdue⟩ := List.any_eq_true.mp hdue
            exact .arrived hcancelled hmem (of_decide_eq_true hdue)
        · split at hturn
          · next hbegun =>
              cases hturn
              exact .begun hcancelled hbegun
          · split at hturn
            · next hqueue =>
                split at hturn
                · next hfree =>
                    cases hturn
                    exact .granted hcancelled hqueue hfree
                · exact turns_of_nextWait? hcancelled hturn
            · exact turns_of_nextWait? hcancelled hturn

theorem arrivals_eq_nil_of_nextWait? (hturn : run.nextWait? = none) : run.arrivals = [] := by
  unfold nextWait? at hturn
  split at hturn
  · next hdue => simpa [nextDue?] using hdue
  · cases hturn
  · cases hturn

/-- A run that is not cancelled and decides to do nothing has nothing in store that could be
used. -/
theorem idle_of_nextTurn? (hturn : run.nextTurn? = none) :
    run.state.ready? = none ∧
      (run.state.cancelled = false → run.arrivals = [] ∧ run.state.firstBegun? = none ∧
        (run.queue = [] ∨ run.state.commons.free = 0)) := by
  unfold nextTurn? at hturn
  split at hturn
  · cases hturn
  · next hready =>
      -- waiting is the last resort, so each case before it was ruled out on the way
      refine ⟨hready, fun hcancelled => ?_⟩
      rw [if_neg (by simp [hcancelled])] at hturn
      split at hturn
      · cases hturn
      · split at hturn
        · cases hturn
        · next hbegun =>
            split at hturn
            · split at hturn
              · cases hturn
              · next hfree =>
                  exact ⟨arrivals_eq_nil_of_nextWait? hturn, hbegun,
                    Or.inr (Nat.eq_zero_of_not_pos hfree)⟩
            · next hqueue =>
                exact ⟨arrivals_eq_nil_of_nextWait? hturn, hbegun, Or.inl hqueue⟩

/-! ## What follows an action -/

theorem supply_enqueue (run : Run σ) (place : Nat) (item : Nat × Demand) :
    (run.enqueue place).supply.count item = run.supply.count item +
      (run.state.tasks[place]?.elim [] fun task =>
        task.permitsDue.map (place, ·)).count item := by
  unfold enqueue
  split
  · next htask =>
      simp only [supply, htask, Option.elim_some, ChainTask.permitsDue, List.map_append,
        List.map_map, List.count_append, Nat.add_assoc]
      rfl
  · next hother =>
      cases htask : run.state.tasks[place]? with
      | none => rfl
      | some task =>
          -- only the probes of a session queue up, so any other task has none to queue
          have hnone : task.permitsDue = [] := by
            unfold ChainTask.permitsDue
            split
            · next probing hstage =>
                obtain ⟨token, chain, stage⟩ := task
                cases hstage
                exact (hother token chain probing htask).elim
            · rfl
          simp [hnone]

theorem supply_askForSession (run : Run σ) (place : Nat) (now : Instant) (item : Nat × Demand) :
    (run.askForSession backend place).supply.count item = run.supply.count item +
      ((Action.task place (.call (.look now))).raised run.state).count item := by
  unfold askForSession
  split
  · next chain call htask =>
      simp only [supply, Action.raised, TaskAction.raised, htask, Option.elim_some, List.map_cons,
        List.map_nil, List.flatMap_append, List.flatMap_singleton, List.count_append,
        Action.settled, TaskAction.settled]
      omega
  · next hother =>
      rw [supply_enqueue, Action.raised]
      cases htask : run.state.tasks[place]? with
      | none => rfl
      | some task =>
          obtain ⟨token, chain, stage⟩ := task
          cases stage with
          | retrieving call => exact (hother token chain call htask).elim
          | probing | probed | ended => rfl

theorem supply_sendProbe (run : Run σ) (place position : Nat) (item : Nat × Demand) :
    (run.sendProbe backend place position).supply.count item = run.supply.count item +
      ((Action.task place (.probe position .launch)).raised run.state).count item := by
  unfold sendProbe
  split
  · next chain probing htask =>
      split
      · next hprobe =>
          simp only [supply, Action.raised, TaskAction.raised, ProbeAction.raised,
            ChainTask.probe?, htask, hprobe, Option.elim_some, List.map_cons, List.map_nil,
            List.flatMap_append, List.flatMap_singleton, List.count_append, Action.settled,
            TaskAction.settled, ProbeAction.settled]
          omega
      · next hprobe =>
          simp [Action.raised, TaskAction.raised, ChainTask.probe?, htask, hprobe]
  · next hother =>
      -- where there is no such probe, nothing is sent and nothing asked for
      have hnone : (Action.task place (.probe position .launch)).raised run.state = [] := by
        cases htask : run.state.tasks[place]? with
        | none => simp [Action.raised, htask]
        | some task =>
            obtain ⟨token, chain, stage⟩ := task
            cases stage with
            | probing probing => exact (hother token chain probing htask).elim
            | retrieving | probed | ended =>
                simp [Action.raised, TaskAction.raised, ChainTask.probe?, htask]
      rw [hnone, List.count_nil, Nat.add_zero]

/-- What an action asks for is on its way after it. -/
theorem supply_follow (backend : Backend σ) (run : Run σ) (hcancel : action ≠ .cancel)
    (hgrant : ∀ place position, action ≠ .task place (.probe position .grant))
    (item : Nat × Demand) :
    (run.follow backend action).supply.count item =
      run.supply.count item + (action.raised run.state).count item := by
  cases action with
  | cancel => exact absurd rfl hcancel
  | collect => rfl
  | task place action =>
      -- most actions ask for nothing, and leave what is in store as it is
      have hnothing : (∀ task, action.raised task = []) → run.supply.count item =
          run.supply.count item + ((Action.task place action).raised run.state).count item := by
        intro hnil
        rw [Action.raised_eq_nil hnil, List.count_nil, Nat.add_zero]
      cases action with
      | call action =>
          cases action with
          | look now => exact supply_askForSession run place now item
          | answer outcome now => exact hnothing fun _ => rfl
          | keep => exact supply_enqueue run place item
      | probe position action =>
          cases action with
          | grant => exact absurd rfl (hgrant place position)
          | launch => exact supply_sendProbe run place position item
          | answered | drop | report => exact hnothing fun _ => TaskAction.raised_probe_eq_nil rfl
      | abandon | receive | conclude | deliver => exact hnothing fun _ => rfl

/-- What follows an action sends for answers and nothing else, counts the probes in flight, and
leaves the state and the instant of the cancellation alone. -/
theorem exists_follow (backend : Backend σ) (run : Run σ) (action : Action) :
    ∃ services arrivals queue events peak,
      run.follow backend action = { run with services, arrivals, queue, events, peak } ∧
        (∀ arrival ∈ arrivals, arrival ∈ run.arrivals ∨ arrival.action.IsAnswer) ∧
        peak ≤ max run.peak run.state.inFlight := by
  have hkept : ∀ arrival ∈ run.arrivals, arrival ∈ run.arrivals ∨ arrival.action.IsAnswer :=
    fun _ hmem => Or.inl hmem
  have hsent : ∀ {arrival : Arrival}, arrival.action.IsAnswer →
      ∀ other ∈ run.arrivals ++ [arrival], other ∈ run.arrivals ∨ other.action.IsAnswer := by
    intro arrival hanswer other hmem
    rcases List.mem_append.mp hmem with hbefore | hlast
    · exact Or.inl hbefore
    · rw [List.mem_singleton.mp hlast]
      exact Or.inr hanswer
  -- queueing up changes the queue and nothing else
  have henqueue : ∀ place, ∃ queue, run.enqueue place = { run with queue } := by
    intro place
    unfold enqueue
    split <;> exact ⟨_, rfl⟩
  have hpeak : run.peak ≤ max run.peak run.state.inFlight := Nat.le_max_left _ _
  unfold follow
  split
  · next place now =>
      unfold askForSession
      split
      · exact ⟨_, _, _, _, _, rfl, hsent (.session place _ _), hpeak⟩
      · obtain ⟨queue, hqueue⟩ := henqueue place
        exact ⟨_, _, _, _, _, hqueue, hkept, hpeak⟩
  · next place =>
      obtain ⟨queue, hqueue⟩ := henqueue place
      exact ⟨_, _, _, _, _, hqueue, hkept, hpeak⟩
  · exact ⟨_, _, _, _, _, rfl, hkept, hpeak⟩
  · next place position =>
      unfold sendProbe
      split
      · split
        · exact ⟨_, _, _, _, _, rfl, hsent (.relay place position _), Nat.le_refl _⟩
        · exact ⟨_, _, _, _, _, rfl, hkept, hpeak⟩
      · exact ⟨_, _, _, _, _, rfl, hkept, hpeak⟩
  · exact ⟨_, _, _, _, _, rfl, by simp, hpeak⟩
  · exact ⟨_, _, _, _, _, rfl, hkept, hpeak⟩

/-! ## Actions keep the pace -/

/-- An action keeps the pace if what it answers is no longer in store. -/
theorem paced_of_act (hact : run.act backend action = some next)
    (hsound : run.state.Sound permits) (hcancelled : run.state.cancelled = false)
    (hcancel : action ≠ .cancel)
    (hgrant : ∀ place position, action ≠ .task place (.probe position .grant))
    (hanswers : ∀ arrival ∈ run.arrivals, arrival.action.IsAnswer)
    (hsupply : ∀ item, action.settled.count item + run.supply.count item = run.state.demand item) :
    next.Paced := by
  obtain ⟨state, hmoves, rfl⟩ := exists_of_act hact
  refine ⟨fun arrival hmem => ?_, fun item => ?_⟩
  · obtain ⟨_, _, _, _, _, hfollow, hsent, -⟩ := exists_follow backend { run with state } action
    rw [hfollow] at hmem
    exact (hsent arrival hmem).elim (hanswers arrival) id
  · have hdemand := hmoves.demand hsound hcancelled item
    have hfollow := supply_follow backend { run with state } hcancel hgrant item
    have hbefore := hsupply item
    rw [state_follow, hfollow]
    -- the step itself changes nothing that is in store
    change run.supply.count item + (action.raised state).count item = state.demand item
    omega

/-- Giving a permit to the first probe in the queue keeps the pace. -/
theorem paced_of_grant {place position : Nat} {queue : List (Nat × Nat)} (hpaced : run.Paced)
    (hsound : run.state.Sound permits) (hcancelled : run.state.cancelled = false)
    (hqueue : run.queue = (place, position) :: queue)
    (hact : run.act backend (.task place (.probe position .grant)) = some next) :
    next.Paced := by
  obtain ⟨state, hmoves, rfl⟩ := exists_of_act hact
  refine ⟨hpaced.answers, fun item => ?_⟩
  have hdemand := hmoves.demand hsound hcancelled item
  have hbefore := hpaced.supply item
  have hsettled : (Action.task place (.probe position .grant)).settled =
      [(place, .probe position .permit)] := rfl
  rw [Action.raised_eq_nil_of_settled (by simp [hsettled]), hsettled] at hdemand
  simp only [supply, hqueue, List.map_cons, List.count_append, List.count_cons,
    List.count_nil] at hbefore hdemand
  simp only [follow, supply, hqueue, List.tail_cons, List.count_append]
  omega

/-- The answer that has arrived is taken out of store. -/
theorem supply_eraseIdx {place : Nat} {arrival : Arrival}
    (harrival : run.arrivals[place]? = some arrival) (item : Nat × Demand) :
    arrival.action.settled.count item +
        ({ run with arrivals := run.arrivals.eraseIdx place } : Run σ).supply.count item =
      run.supply.count item := by
  obtain ⟨hless, rfl⟩ := List.getElem?_eq_some_iff.mp harrival
  have hperm := (List.getElem_cons_eraseIdx_perm hless).flatMap_right
    fun arrival => arrival.action.settled
  have hcount := hperm.count_eq item
  simp only [supply, List.flatMap_cons, List.count_append] at hcount ⊢
  omega

theorem settled_eq_nil_of_isPrompt (hprompt : action.isPrompt = true) : action.settled = [] := by
  cases action with
  | cancel | collect => rfl
  | task place action =>
      cases action with
      | call action =>
          cases action with
          | look | keep => rfl
          | answer => cases hprompt
      | probe position action =>
          cases action with
          | launch | drop | report => rfl
          | grant | answered => cases hprompt
      | abandon | receive | conclude | deliver => rfl

theorem uncancelled_of_act (hact : run.act backend action = some next)
    (hnever : run.cancelAt? = none) (hcancel : action ≠ .cancel) :
    next.cancelAt? = none ∧ next.state.cancelled = run.state.cancelled := by
  obtain ⟨state, hmoves, rfl⟩ := exists_of_act hact
  obtain ⟨_, _, _, _, _, hfollow, -, -⟩ := exists_follow backend { run with state } action
  rw [hfollow]
  exact ⟨hnever, hmoves.cancelled_eq hcancel⟩

/-! ## Turns -/

/-- An answer that has arrived is found. -/
theorem exists_take_receive (backend : Backend σ) {instant : Instant} {arrival : Arrival}
    (hmem : arrival ∈ run.arrivals) (hdue : arrival.due ≤ instant) :
    ∃ place, ∃ found : Arrival, run.arrivals[place]? = some found ∧
      run.take backend (.receive instant) =
        { run with
          now := instant
          arrivals := run.arrivals.eraseIdx place
          events := run.events ++ found.event?.toList }.act backend found.action := by
  have hsome : (run.arrivals.findIdx? fun arrival => arrival.due ≤ instant).isSome = true := by
    rw [List.findIdx?_isSome, List.any_eq_true]
    exact ⟨arrival, hmem, decide_eq_true hdue⟩
  obtain ⟨place, hplace⟩ := Option.isSome_iff_exists.mp hsome
  obtain ⟨hless, -, -⟩ := List.findIdx?_eq_some_iff_getElem.mp hplace
  have hfound := List.getElem?_eq_getElem hless
  exact ⟨place, _, hfound, by simp only [take, hplace, hfound]⟩

theorem exists_act {state : State} (hmoves : run.state.Moves action state) :
    ∃ next, run.act backend action = some next :=
  ⟨_, Option.map_eq_some_iff.mpr ⟨state, step_eq_some_iff.mpr hmoves, rfl⟩⟩

/-- What an answer on its way is for is waited for. -/
theorem Paced.demand_ne_zero (hpaced : run.Paced) {arrival : Arrival}
    (hmem : arrival ∈ run.arrivals) :
    ∀ item ∈ arrival.action.settled, run.state.demand item ≠ 0 := by
  intro item hitem
  rw [← hpaced.supply item]
  refine Nat.ne_of_gt (List.count_pos_iff.mpr ?_)
  exact List.mem_append_left _ (List.mem_flatMap.mpr ⟨arrival, hmem, hitem⟩)

namespace Turns

/-- What a run decides to do is possible. -/
theorem exists_take (hturns : run.Turns turn) (hsound : run.state.Sound permits)
    (hpaced : run.state.cancelled = false → run.Paced) :
    ∃ next, run.take backend turn = some next := by
  cases hturns with
  | ready hready =>
      obtain ⟨-, state, hmoves⟩ := hsound.moves_of_ready? hready
      exact exists_act hmoves
  | arrived hcancelled hmem hdue =>
      obtain ⟨place, found, hfound, htake⟩ := exists_take_receive backend hmem hdue
      rw [htake]
      have hfoundMem := List.mem_of_getElem? hfound
      obtain ⟨state, hmoves⟩ := State.exists_of_isAnswer
        ((hpaced hcancelled).answers found hfoundMem)
        ((hpaced hcancelled).demand_ne_zero hfoundMem) hcancelled
      exact exists_act hmoves
  | begun hcancelled hbegun =>
      obtain ⟨state, hmoves⟩ := State.exists_look hbegun hcancelled run.now
      exact exists_act hmoves
  | @granted place position queue hcancelled hqueue hfree =>
      -- the head of the queue is in store, so its probe waits for the permit
      have hdemand : run.state.demand (place, .probe position .permit) ≠ 0 := by
        rw [← (hpaced hcancelled).supply]
        refine Nat.ne_of_gt (List.count_pos_iff.mpr (List.mem_append_right _ ?_))
        simp [hqueue]
      obtain ⟨state, hmoves⟩ := State.exists_grant hdemand hfree
      exact exists_act hmoves
  | cancelled hcancelled hcancelAt => exact exists_act (.cancelled hcancelled)

theorem paced (hturns : run.Turns turn) (hsound : run.state.Sound permits)
    (hpaced : run.state.cancelled = false → run.Paced)
    (htake : run.take backend turn = some next) (hcancelled : next.state.cancelled = false) :
    next.Paced := by
  cases hturns with
  | ready hready =>
      have hbefore := (moves_of_act htake).cancelled_eq_false hcancelled
      have hprompt := (hsound.moves_of_ready? hready).1
      refine paced_of_act htake hsound hbefore ?_ ?_ (hpaced hbefore).answers fun item => ?_
      · rintro rfl
        cases hprompt
      · rintro place position rfl
        cases hprompt
      · rw [settled_eq_nil_of_isPrompt hprompt, List.count_nil, Nat.zero_add]
        exact (hpaced hbefore).supply item
  -- the answer that arrives leaves the store, and what it was for is not demanded any more
  | arrived hbefore hmem hdue =>
      obtain ⟨place, found, hfound, htaken⟩ := exists_take_receive backend hmem hdue
      rw [htaken] at htake
      have hanswer := (hpaced hbefore).answers found (List.mem_of_getElem? hfound)
      refine paced_of_act htake hsound hbefore hanswer.ne_cancel hanswer.ne_grant ?_ fun item => ?_
      · exact fun other hother => (hpaced hbefore).answers other (List.mem_of_mem_eraseIdx hother)
      · exact (supply_eraseIdx hfound item).trans ((hpaced hbefore).supply item)
  | begun hbefore hbegun =>
      exact paced_of_act htake hsound hbefore (by simp) (by simp) (hpaced hbefore).answers
        fun item => (Nat.zero_add _).trans ((hpaced hbefore).supply item)
  | granted hbefore hqueue hfree =>
      exact paced_of_grant (hpaced hbefore) hsound hbefore hqueue htake
  | cancelled hbefore hcancelAt =>
      have hmoves := moves_of_act htake
      generalize next.state = state at hmoves hcancelled
      cases hmoves
      cases hcancelled

/-- Without an instant of cancellation no turn cancels the check. -/
theorem uncancelled (hturns : run.Turns turn) (hsound : run.state.Sound permits)
    (hpaced : run.state.cancelled = false → run.Paced)
    (htake : run.take backend turn = some next) (hnever : run.cancelAt? = none) :
    next.cancelAt? = none ∧ next.state.cancelled = run.state.cancelled := by
  cases hturns with
  | ready hready =>
      refine uncancelled_of_act htake hnever ?_
      rintro rfl
      cases (hsound.moves_of_ready? hready).1
  | arrived hbefore hmem hdue =>
      obtain ⟨place, found, hfound, htaken⟩ := exists_take_receive backend hmem hdue
      rw [htaken] at htake
      have hanswer := (hpaced hbefore).answers found (List.mem_of_getElem? hfound)
      have hkept := uncancelled_of_act htake hnever hanswer.ne_cancel
      exact hkept
  | begun | granted => exact uncancelled_of_act htake hnever (by simp)
  | cancelled hbefore hcancelAt =>
      rw [hnever] at hcancelAt
      cases hcancelAt

end Turns

/-! ## The end of a run -/

/-- A run that decides to do nothing has come to the end of the check. -/
theorem isOver_of_nextTurn? (hsound : run.state.Sound permits) (hpositive : 0 < permits)
    (hpaced : run.state.cancelled = false → run.Paced) (hturn : run.nextTurn? = none) :
    run.state.isOver = true := by
  obtain ⟨hready, hidle⟩ := idle_of_nextTurn? hturn
  refine hsound.isOver_of_stuck hpositive fun action hother =>
    Option.eq_none_iff_forall_ne_some.mpr fun next hstep => ?_
  have hmoves := step_eq_some_iff.mp hstep
  obtain ⟨hcancelled, hprompt⟩ := hmoves.not_prompt hready hother
  obtain ⟨harrivals, hbegun, hpermits⟩ := hidle hcancelled
  -- whatever the action answers would be in store
  have hstore : ∀ {item}, action.settled = [item] → item ∈ run.supply := by
    intro item hsettled
    have hdemand := hmoves.demand_ne_zero hsound hcancelled hsettled
    rw [← (hpaced hcancelled).supply] at hdemand
    exact List.count_pos_iff.mp (Nat.pos_of_ne_zero hdemand)
  cases action with
  | cancel => exact hother rfl
  | collect => cases hprompt
  | task place action =>
      cases action with
      | call action =>
          cases action with
          | look now => exact hmoves.firstBegun?_ne_none hbegun
          | answer outcome now => simpa [supply, harrivals] using hstore rfl
          | keep => cases hprompt
      | probe position action =>
          cases action with
          | grant =>
              rcases hpermits with hqueue | hfree
              · simpa [supply, harrivals, hqueue] using hstore rfl
              · exact absurd hfree (Nat.ne_of_gt hmoves.free_pos)
          | answered outcome => simpa [supply, harrivals] using hstore rfl
          | launch | drop | report => cases hprompt
      | abandon | receive | conclude | deliver => cases hprompt

theorem turns_of_next? (hnext : run.next? backend = some next) :
    ∃ turn, run.Turns turn ∧ run.take backend turn = some next := by
  obtain ⟨turn, hturn, htake⟩ := Option.bind_eq_some_iff.mp hnext
  exact ⟨turn, turns_of_nextTurn? hturn, htake⟩

theorem nextTurn?_eq_none (hsound : run.state.Sound permits)
    (hpaced : run.state.cancelled = false → run.Paced) (hnext : run.next? backend = none) :
    run.nextTurn? = none := by
  refine Option.eq_none_iff_forall_ne_some.mpr fun turn hturn => ?_
  obtain ⟨next, htake⟩ := (turns_of_nextTurn? hturn).exists_take hsound hpaced
  rw [next?, hturn, Option.bind_some, htake] at hnext
  cases hnext

theorem peak_of_next? (hnext : run.next? backend = some next)
    (hsound : run.state.Sound permits) (hpeak : run.peak ≤ permits) : next.peak ≤ permits := by
  obtain ⟨before, action, hstate, hsame, hact⟩ := exists_act_of_next? hnext
  obtain ⟨state, hmoves, rfl⟩ := exists_of_act hact
  rw [hstate] at hmoves
  obtain ⟨_, _, _, _, peak, hfollow, -, hle⟩ := exists_follow backend { before with state } action
  rw [hfollow]
  rw [← hsame] at hpeak
  exact Nat.le_trans hle (Nat.max_le.mpr ⟨hpeak, (hsound.after hmoves).inFlight_le⟩)

/-- A run follows a schedule to the end.  Without an instant of cancellation the schedule does not
cancel the check, and the peak stays within the permits. -/
theorem trace_of_finish (backend : Backend σ) (run : Run σ) (hsound : run.state.Sound permits)
    (hpositive : 0 < permits) (hpaced : run.state.cancelled = false → run.Paced) :
    ∃ history, Trace (Possible step) run.state history (run.finish backend).state ∧
      (run.finish backend).state.isOver = true ∧
      (run.cancelAt? = none →
        (run.finish backend).state.cancelled = run.state.cancelled) ∧
      (run.peak ≤ permits → (run.finish backend).peak ≤ permits) := by
  fun_induction finish backend run with
  | case1 run next hnext ih =>
      obtain ⟨turn, hturns, htake⟩ := turns_of_next? hnext
      obtain ⟨action, hmoves⟩ := moves_of_next? hnext
      obtain ⟨history, htrace, hover, hcancelled, hpeak⟩ :=
        ih (hsound.after hmoves) (hturns.paced hsound hpaced htake)
      refine ⟨_, (Trace.start.step (step_eq_some_iff.mpr hmoves)).append htrace, hover, ?_,
        fun hbefore => hpeak (peak_of_next? hnext hsound hbefore)⟩
      intro hnever
      obtain ⟨hnext, hsame⟩ := hturns.uncancelled hsound hpaced htake hnever
      exact (hcancelled hnext).trans hsame
  | case2 run hnext =>
      refine ⟨[], .start, isOver_of_nextTurn? hsound hpositive hpaced ?_, fun _ => rfl, id⟩
      exact nextTurn?_eq_none hsound hpaced hnext

/-- The run with which a check begins follows a schedule to the end, which cancels the check only
if it is to be cancelled at some time. -/
theorem trace_of_ofStart (backend : Backend σ) (state : ChainGateway.State σ) {start : State}
    (cancelAfter? : Option Nat) (hsound : start.Sound permits) (hpositive : 0 < permits)
    (hcancelled : start.cancelled = false) (hdemand : ∀ item, start.demand item = 0) :
    let last := (ofStart state start cancelAfter?).finish backend
    ∃ history, Trace (Possible step) start history last.state ∧ last.state.isOver = true ∧
      (cancelAfter? = none → last.state.cancelled = false) ∧ last.peak ≤ permits := by
  by_cases hzero : cancelAfter? = some 0
  · subst hzero
    -- the cancellation is the first step of the schedule
    have hcancel : start.Moves .cancel { start with cancelled := true } := .cancelled hcancelled
    obtain ⟨history, htrace, hover, -, hpeak⟩ :=
      trace_of_finish backend (ofStart state start (some 0)) (hsound.after hcancel) hpositive nofun
    exact ⟨_, (Trace.start.step (step_eq_some_iff.mpr hcancel)).append htrace, hover, nofun,
      hpeak (Nat.zero_le _)⟩
  · have hfirst : (ofStart state start cancelAfter?).state = start := by
      rw [ofStart, beq_eq_false_iff_ne.mpr hzero, ← hcancelled]
    have hpaced : (ofStart state start cancelAfter?).Paced :=
      ⟨by simp [ofStart], fun item => by rw [hfirst, hdemand]; rfl⟩
    rw [← hfirst] at hsound
    obtain ⟨history, htrace, hover, hkept, hpeak⟩ :=
      trace_of_finish backend _ hsound hpositive fun _ => hpaced
    rw [hfirst] at htrace hkept
    refine ⟨history, htrace, hover, fun hnever => ?_, hpeak (Nat.zero_le _)⟩
    rw [hkept (by rw [ofStart, hnever, Option.map_none]), hcancelled]

end Run

/-! ## The running check -/

section Checks

variable {σ : Type} {backend : Backend σ} {gateway : Gateway} {application : Application}
  {chains : List Blockchain} {state : ChainGateway.State σ} {cancelAfter? : Option Nat}

/-- The running check returns exactly if it can have its permits. -/
theorem exists_check_iff :
    (∃ report, gateway.check backend state application chains cancelAfter? = .ok report) ↔
      max 1 gateway.maxInFlight ≤ permitLimit := by
  rw [← Gateway.exists_startCheck_iff]
  simp only [Gateway.check, map_eq_ok_iff]
  exact ⟨fun ⟨_, start, hstart, _⟩ => ⟨start, hstart⟩,
    fun ⟨start, hstart⟩ => ⟨_, start, hstart, rfl⟩⟩

/-- What the running check returns is what a schedule comes to that leads to the end of the check,
and that cancels the check only if it is to be cancelled at some time.  The number of probes in
flight stays within what is allowed. -/
theorem trace_of_check {report : Report σ}
    (hcheck : gateway.check backend state application chains cancelAfter? = .ok report) :
    ∃ start history last,
      gateway.startCheck application chains state.sessions = .ok start ∧
      Trace (Possible step) start history last ∧ last.isOver = true ∧
      (cancelAfter? = none → last.cancelled = false) ∧
      report.supporting = last.results ∧ report.state.sessions = last.commons.sessions ∧
      report.peak ≤ max 1 gateway.maxInFlight := by
  obtain ⟨start, hstart, rfl⟩ := map_eq_ok_iff.mp hcheck
  obtain ⟨-, rfl⟩ := Gateway.startCheck_eq_ok_iff.mp hstart
  have hpositive : 0 < max 1 gateway.maxInFlight := by omega
  obtain ⟨history, htrace, hover, hcancelled, hpeak⟩ :=
    Run.trace_of_ofStart backend state cancelAfter? (State.sound_initial _ chains _ state.sessions)
      hpositive rfl (State.demand_initial _ _ _ _)
  exact ⟨_, history, _, hstart, htrace, hover, hcancelled, rfl, rfl, hpeak⟩

end Checks

end ChainGateway.Check
