import ChainGateway.Check.Run
import ChainGateway.Proofs.Check.Progress

/-!
# What is ready in a check

`State.ready?` picks something that waits for nothing.  What it picks is possible
(`State.Sound.moves_of_ready?`), and when it finds nothing, the only things that are possible are
to look for a session, to answer what was asked and to give a permit (`State.Moves.not_prompt`).
Likewise `State.firstBegun?` finds a task that can look for its session if there is one.
-/

namespace ChainGateway.Check

/-! ## Actions that wait for nothing -/

def ProbeAction.isPrompt : ProbeAction → Bool
  | .launch | .drop | .report => true
  | .grant | .answered _ => false

/-- Does the action of a task wait for nothing, once it has looked for its session? -/
def TaskAction.isPrompt : TaskAction → Bool
  | .call (.look _) | .call (.answer _ _) => false
  | .call .keep | .abandon | .receive | .conclude | .deliver => true
  | .probe _ action => action.isPrompt

/-- Does the action wait for nothing, once the tasks have looked for their sessions? -/
def Action.isPrompt : Action → Bool
  | .cancel => false
  | .task _ action => action.isPrompt
  | .collect => true

section Probes

variable {chain : Blockchain} {cancelled : Bool} {probe next : Probe} {action : ProbeAction}
  {commons after : ProbeCommons}

theorem Probe.moves_of_ready? {others : Nat} (chain : Blockchain)
    (hready : probe.ready? cancelled = some action)
    (hreports : commons.reports.Sound (others + probe.running)) :
    action.isPrompt = true ∧
      ∃ next after, probe.Moves chain cancelled commons action next after := by
  cases hstage : probe.stage with
  | waiting =>
      simp only [ready?, hstage] at hready
      split at hready
      · next hcancelled =>
          cases hready
          exact ⟨rfl, _, _, .dropped (Or.inl hstage) hcancelled⟩
      · next hcancelled =>
          obtain ⟨hpermit, haction⟩ := Option.ite_none_right_eq_some.mp hready
          cases haction
          exact ⟨rfl, _, _, .launched hstage hpermit (eq_false_of_ne_true hcancelled)⟩
  | relaying =>
      simp only [ready?, hstage] at hready
      obtain ⟨hcancelled, haction⟩ := Option.ite_none_right_eq_some.mp hready
      cases haction
      exact ⟨rfl, _, _, .dropped (Or.inr hstage) hcancelled⟩
  | judged supporting? =>
      simp only [ready?, hstage] at hready
      cases hready
      rw [Probe.running, hstage] at hreports
      obtain ⟨reports, hsend⟩ := hreports.exists_send? supporting?
      exact ⟨rfl, _, _, .reported hstage hsend⟩
  | ended =>
      simp only [ready?, hstage] at hready
      cases hready

theorem Probe.Moves.not_prompt (hmoves : probe.Moves chain cancelled commons action next after)
    (hready : probe.ready? cancelled = none) : cancelled = false ∧ action.isPrompt = false := by
  cases hmoves with
  | granted hstage hpermit hfree =>
      exact ⟨by simpa [Probe.ready?, hstage, hpermit] using hready, rfl⟩
  | launched hstage hpermit hcancelled =>
      simp [Probe.ready?, hstage, hpermit, hcancelled] at hready
  | answered outcome hstage hcancelled => exact ⟨hcancelled, rfl⟩
  | dropped hstage hcancelled =>
      rcases hstage with hstage | hstage <;> simp [Probe.ready?, hstage, hcancelled] at hready
  | reported hstage hsend => simp [Probe.ready?, hstage] at hready

end Probes

section Tasks

variable {cancelled : Bool} {task next : ChainTask} {action : TaskAction}
  {commons after : TaskCommons}

theorem Probing.moves_of_ready? {probing : Probing} (hstage : task.stage = .probing probing)
    (hsound : probing.Sound) (hready : probing.ready? cancelled = some action)
    (commons : TaskCommons) :
    action.isPrompt = true ∧ ∃ next after, task.Moves cancelled commons action next after := by
  unfold Probing.ready? at hready
  split at hready
  · next hqueue =>
      cases hready
      rw [List.isEmpty_eq_false_iff] at hqueue
      exact ⟨rfl, ChainTask.exists_receive commons hstage hqueue⟩
  · split at hready
    · next hclosed =>
        cases hready
        exact ⟨rfl, _, _, .concluded hstage hclosed⟩
    · obtain ⟨⟨probe, place⟩, hmem, hprobeReady⟩ := List.exists_of_findSome?_eq_some hready
      obtain ⟨probeAction, hprobeAction, rfl⟩ := Option.map_eq_some_iff.mp hprobeReady
      have hprobe := List.mem_zipIdx_iff_getElem?.mp hmem
      obtain ⟨others, hothers⟩ := Nat.exists_eq_add_of_le
        (le_total Probe.running (List.mem_of_getElem? hprobe))
      -- the probe that is ready is one of those the channel has room for
      have hreports := hsound.reports
      rw [hothers, Nat.add_comm] at hreports
      have hmoves : probeAction.isPrompt = true ∧ ∃ next after, probe.Moves task.chain cancelled
          { free := commons.free, reports := probing.reports } probeAction next after :=
        Probe.moves_of_ready? task.chain hprobeAction hreports
      obtain ⟨hprompt, next, after, hmoves⟩ := hmoves
      exact ⟨hprompt, hmoves.of_task hstage hprobe⟩

theorem ChainTask.moves_of_ready? {others : Nat} (hsound : task.Sound)
    (hdeliveries : commons.deliveries.Sound (others + task.running))
    (hready : task.ready? cancelled = some action) :
    action.isPrompt = true ∧ ∃ next after, task.Moves cancelled commons action next after := by
  cases hstage : task.stage with
  | retrieving call =>
      simp only [ready?, hstage] at hready
      split at hready
      · next hpending =>
          obtain ⟨hcancelled, haction⟩ := Option.ite_none_right_eq_some.mp hready
          cases haction
          exact ⟨rfl, _, _, .abandoned hstage hcancelled hpending⟩
      · next hpending =>
          cases hready
          refine ⟨rfl, ?_⟩
          unfold Sound at hsound
          simp only [hstage] at hsound
          -- a call that cannot be given up has got its session and is about to keep it
          cases hcall : call.stage with
          | begun | dispatching => simp [SessionCall.isPending, hcall] at hpending
          | dispatched session completed => exact exists_keep commons hstage hcall
          | returned session => exact absurd hcall (hsound.1 session)
          | failed error => exact absurd hcall (hsound.2 error)
  | probing probing =>
      unfold Sound at hsound
      simp only [ready?, hstage] at hready hsound
      exact Probing.moves_of_ready? hstage hsound hready commons
  | probed session supporting =>
      simp only [ready?, hstage] at hready
      cases hready
      rw [running, hstage] at hdeliveries
      obtain ⟨deliveries, hsend⟩ :=
        hdeliveries.exists_send? { key := session.key, nodes := supporting }
      exact ⟨rfl, _, _, .delivered hstage hsend⟩
  | ended =>
      simp only [ready?, hstage] at hready
      cases hready

/-- When nothing is ready, what a task can do is not prompt, and the check is not cancelled. -/
theorem ChainTask.Moves.not_prompt (hmoves : task.Moves cancelled commons action next after)
    (hready : task.ready? cancelled = none) : cancelled = false ∧ action.isPrompt = false := by
  unfold ChainTask.ready? at hready
  cases hmoves with
  | called hstage hwaits hcall | obtained hstage hwaits hcall | unobtained hstage hwaits hcall =>
      simp only [hstage] at hready
      split at hready
      · -- until its session is dispatched, a call does nothing by itself but give up
        next hpending =>
          refine ⟨by simpa using hready, ?_⟩
          cases hcall with
          | found | missed | dispatched | refused => rfl
          | kept hdispatched => simp [SessionCall.isPending, hdispatched] at hpending
      · cases hready
  | crashed hstage hdispatched => simp [hstage, SessionCall.isPending, hdispatched] at hready
  | abandoned hstage hcancelled hpending => simp [hstage, hcancelled, hpending] at hready
  | @probed probing moved place free action hstage hprobe =>
      simp only [hstage, Probing.ready?] at hready
      split at hready
      · cases hready
      · split at hready
        · cases hready
        · obtain ⟨probe, next, reports, hplace, hmoves, -⟩ := Probing.step_eq_some_iff.mp hprobe
          have hmem : (probe, place) ∈ probing.probes.zipIdx :=
            List.mem_zipIdx_iff_getElem?.mpr hplace
          have hprobeReady := List.findSome?_eq_none_iff.mp hready _ hmem
          exact hmoves.not_prompt (Option.map_eq_none_iff.mp hprobeReady)
  | @received probing moved hstage hreceive =>
      obtain ⟨⟨supporting?, reports⟩, hmessage, -⟩ := Option.map_eq_some_iff.mp hreceive
      simp [hstage, Probing.ready?, Channel.queue_receive? hmessage] at hready
  | concluded hstage hclosed =>
      simp only [hstage, Probing.ready?, hclosed] at hready
      split at hready <;> cases hready
  | delivered hstage hsend => simp [hstage] at hready

theorem ChainTask.Moves.begun_of_look {now : Instant}
    (hmoves : task.Moves cancelled commons (.call (.look now)) next after) :
    ∃ key, task.stage = .retrieving { key, stage := .begun } := by
  have hlook : ∀ {call callAfter sessions}, task.stage = .retrieving call →
      call.Moves commons.sessions (.look now) callAfter sessions →
      ∃ key, task.stage = .retrieving { key, stage := .begun } := by
    rintro ⟨key, stage⟩ callAfter sessions hstage hcall
    cases hcall with
    | found hbegun | missed hbegun =>
        cases hbegun
        exact ⟨key, hstage⟩
  cases hmoves with
  | called hstage hwaits hcall | obtained hstage hwaits hcall | unobtained hstage hwaits hcall =>
      exact hlook hstage hcall

end Tasks

namespace State

variable {permits : Nat} {state next : State} {action : Action}

/-- What is ready is possible. -/
theorem Sound.moves_of_ready? (hsound : state.Sound permits) (hready : state.ready? = some action) :
    action.isPrompt = true ∧ ∃ next, state.Moves action next := by
  simp only [ready?] at hready
  split at hready
  · next found hfound =>
      cases hready
      obtain ⟨⟨task, place⟩, hmem, htaskReady⟩ := List.exists_of_findSome?_eq_some hfound
      obtain ⟨action, haction, rfl⟩ := Option.map_eq_some_iff.mp htaskReady
      have htask := List.mem_zipIdx_iff_getElem?.mp hmem
      have htaskMem := List.mem_of_getElem? htask
      obtain ⟨others, hothers⟩ := Nat.exists_eq_add_of_le (le_total ChainTask.running htaskMem)
      -- the task that is ready is one of those the channel has room for
      have hdeliveries := hsound.deliveries
      rw [hothers, Nat.add_comm] at hdeliveries
      obtain ⟨hprompt, moved, commons, hmoves⟩ :=
        ChainTask.moves_of_ready? (hsound.tasks task htaskMem) hdeliveries haction
      exact ⟨hprompt, _, .task htask hmoves⟩
  · split at hready
    · cases hready
    · next hqueue =>
        cases hready
        rw [List.isEmpty_iff] at hqueue
        exact ⟨rfl, exists_collect hqueue⟩

/-- When nothing is ready, what is possible is not prompt, and the check is not cancelled. -/
theorem Moves.not_prompt (hmoves : state.Moves action next) (hready : state.ready? = none)
    (hother : action ≠ .cancel) : state.cancelled = false ∧ action.isPrompt = false := by
  simp only [ready?] at hready
  split at hready
  · cases hready
  · next hnone =>
      split at hready
      · next hqueue =>
          cases hmoves with
          | cancelled => exact absurd rfl hother
          | @task place task moved commons action htask hmoves =>
              have hmem : (task, place) ∈ state.tasks.zipIdx :=
                List.mem_zipIdx_iff_getElem?.mpr htask
              have htaskReady := List.findSome?_eq_none_iff.mp hnone _ hmem
              exact hmoves.not_prompt (Option.map_eq_none_iff.mp htaskReady)
          | collected hreceive => simp [Channel.queue_receive? hreceive] at hqueue
      · cases hready

/-- A task that was found not to have looked for its session can do so. -/
theorem exists_look {place : Nat} (hbegun : state.firstBegun? = some place)
    (hcancelled : state.cancelled = false) (now : Instant) :
    ∃ next, state.Moves (.task place (.call (.look now))) next := by
  obtain ⟨hless, htest, -⟩ := List.findIdx?_eq_some_iff_getElem.mp hbegun
  have htask := List.getElem?_eq_getElem hless
  split at htest
  · next key hstage =>
      obtain ⟨moved, commons, hmoves⟩ :=
        ChainTask.exists_look state.commons hstage rfl hcancelled now
      exact ⟨_, .task htask hmoves⟩
  · cases htest

/-- A task that can look for its session is found. -/
theorem Moves.firstBegun?_ne_none {place : Nat} {now : Instant}
    (hmoves : state.Moves (.task place (.call (.look now))) next) :
    state.firstBegun? ≠ none := by
  cases hmoves with
  | @task _ task moved commons _ htask hmoves =>
      obtain ⟨key, hstage⟩ := hmoves.begun_of_look
      intro hnone
      rw [firstBegun?, List.findIdx?_eq_none_iff] at hnone
      have htest := hnone task (List.mem_of_getElem? htask)
      rw [hstage] at htest
      cases htest

end State

end ChainGateway.Check
