import ChainGateway.Proofs.Check.Sound

/-!
# A check comes to its end

A check that has not returned, and that waits for no answer of a service, can go on by itself;
so with every answer that is outstanding given it can go on in any case.  As every step brings it
closer to its end, no schedule goes on for ever.

## Strategy

The one thing tasks wait for among themselves is a permit.  A task that has not ended can take a
step unless all its probes wait for permits (`ChainTask.canStep`), and when no permit is free,
some probe that was given one has not sent its relay, and can (`State.Sound.exists_holder`).
Messages never wait, because the channels have room for all senders that are left.
-/

namespace ChainGateway.Check

/-! ## What a check does by itself -/

/-- Is the action one of the probe itself?  The answer of its node is not. -/
def ProbeAction.isOwn : ProbeAction → Bool
  | .answered _ => false
  | .grant | .launch | .drop | .report => true

/-- Is the action one of the task itself or of its probes, at an instant?  The answers of the
services are not. -/
def TaskAction.isOwn (now : Instant) : TaskAction → Bool
  | .call (.look instant) => decide (instant = now)
  | .call (.answer _ _) => false
  | .probe _ action => action.isOwn
  | .call .keep | .abandon | .receive | .conclude | .deliver => true

/-- Is the action one of the check itself, at an instant?  Neither the cancellation is nor are the
answers of the services. -/
def Action.isOwn (now : Instant) : Action → Bool
  | .cancel => false
  | .task _ action => action.isOwn now
  | .collect => true

/-- Can the action be taken at the instant? -/
def Action.isAt (now : Instant) : Action → Bool
  | .task _ (.call (.look instant)) | .task _ (.call (.answer _ instant)) => decide (instant = now)
  | _ => true

theorem Action.isAt_of_isOwn {now : Instant} {action : Action} (hown : action.isOwn now = true) :
    action.isAt now = true := by
  unfold isAt
  split
  · exact hown
  · cases hown
  · rfl

/-- The task has asked a service for something and has got no answer. -/
def ChainTask.Awaits (task : ChainTask) : Prop :=
  match task.stage with
  | .retrieving call => call.stage = .dispatching
  | .probing probing => ∃ probe ∈ probing.probes, probe.stage = .relaying
  | .probed _ _ | .ended => False

/-- A dispatch or a relay is outstanding. -/
def State.Awaits (state : State) : Prop := ∃ task ∈ state.tasks, task.Awaits

def Probe.CanStep (chain : Blockchain) (cancelled : Bool) (commons : ProbeCommons)
    (probe : Probe) : Prop :=
  ∃ action next after, action.isOwn = true ∧ probe.Moves chain cancelled commons action next after

/-- A task can do something by itself at an instant. -/
def ChainTask.CanStep (now : Instant) (cancelled : Bool) (commons : TaskCommons)
    (task : ChainTask) : Prop :=
  ∃ action next after, action.isOwn now = true ∧ task.Moves cancelled commons action next after

/-! ## What a call can do -/

section Calls

variable {cancelled : Bool} {task : ChainTask} {call : SessionCall} (commons : TaskCommons)

theorem ChainTask.exists_look (hstage : task.stage = .retrieving call)
    (hbegun : call.stage = .begun) (hcancelled : cancelled = false) (now : Instant) :
    ∃ next after, task.Moves cancelled commons (.call (.look now)) next after := by
  have hwaits : (cancelled && call.isPending) = false := by rw [hcancelled, Bool.false_and]
  cases hlookup : commons.sessions.lookup call.key now with
  | some session => exact ⟨_, _, moves_afterCall hstage hwaits (.found hbegun hlookup)⟩
  | none => exact ⟨_, _, moves_afterCall hstage hwaits (.missed hbegun hlookup)⟩

/-- Any answer is possible for a call that waits for one. -/
theorem ChainTask.exists_answer (hstage : task.stage = .retrieving call)
    (hdispatching : call.stage = .dispatching) (hcancelled : cancelled = false)
    (outcome : Except Error Session) (now : Instant) :
    ∃ next after, task.Moves cancelled commons (.call (.answer outcome now)) next after := by
  have hwaits : (cancelled && call.isPending) = false := by rw [hcancelled, Bool.false_and]
  cases outcome with
  | ok session => exact ⟨_, _, moves_afterCall hstage hwaits (.dispatched hdispatching)⟩
  | error error => exact ⟨_, _, moves_afterCall hstage hwaits (.refused hdispatching)⟩

/-- A call that has the answer of the service keeps the session, or breaks its task down. -/
theorem ChainTask.exists_keep {session : Session} {completed : Instant}
    (hstage : task.stage = .retrieving call)
    (hdispatched : call.stage = .dispatched session completed) :
    ∃ next after, task.Moves cancelled commons (.call .keep) next after := by
  have hwaits : (cancelled && call.isPending) = false := by
    simp [SessionCall.isPending, hdispatched]
  cases hinsert : commons.sessions.insert call.key session completed with
  | ok sessions => exact ⟨_, _, moves_afterCall hstage hwaits (.kept hdispatched hinsert)⟩
  | error fault => exact ⟨_, _, .crashed hstage hdispatched hinsert⟩

end Calls

/-! ## Tasks that can go on -/

section Tasks

variable {now : Instant} {cancelled : Bool} {commons : TaskCommons} {task : ChainTask}
  {probing : Probing}

theorem Probe.Moves.of_task {place : Nat} {probe next : Probe} {after : ProbeCommons}
    {action : ProbeAction} (hstage : task.stage = .probing probing)
    (hprobe : probing.probes[place]? = some probe)
    (hmoves : probe.Moves task.chain cancelled
      { free := commons.free, reports := probing.reports } action next after) :
    ∃ moved commonsAfter,
      task.Moves cancelled commons (.probe place action) moved commonsAfter :=
  ⟨_, _, .probed hstage
    (Probing.step_eq_some_iff.mpr ⟨probe, next, after.reports, hprobe, hmoves, rfl⟩)⟩

theorem ChainTask.canStep_of_probe {place : Nat} {probe : Probe}
    (hstage : task.stage = .probing probing) (hprobe : probing.probes[place]? = some probe)
    (hstep : probe.CanStep task.chain cancelled
      { free := commons.free, reports := probing.reports }) :
    task.CanStep now cancelled commons := by
  obtain ⟨action, next, after, hown, hmoves⟩ := hstep
  obtain ⟨moved, commonsAfter, htaskMoves⟩ := hmoves.of_task hstage hprobe
  exact ⟨.probe place action, moved, commonsAfter, hown, htaskMoves⟩

/-- A probe that has not ended, and that waits for no answer, can go on unless it waits for a
permit and none is free. -/
theorem Probe.canStep (chain : Blockchain) (cancelled : Bool) {probe : Probe}
    {commons : ProbeCommons} {others : Nat} (hrunning : probe.running ≠ 0)
    (hrelaying : probe.stage ≠ .relaying) (hreports : commons.reports.Sound (others + 1)) :
    probe.CanStep chain cancelled commons ∨ cancelled = false ∧ commons.free = 0 := by
  cases hstage : probe.stage with
  | waiting =>
      cases cancelled with
      | true => exact Or.inl ⟨.drop, _, _, rfl, .dropped (Or.inl hstage) rfl⟩
      | false =>
          cases hpermit : probe.permit with
          | true => exact Or.inl ⟨.launch, _, _, rfl, .launched hstage hpermit rfl⟩
          | false =>
              rcases Nat.eq_zero_or_pos commons.free with hnone | hfree
              · exact Or.inr ⟨rfl, hnone⟩
              · exact Or.inl ⟨.grant, _, _, rfl, .granted hstage hpermit hfree⟩
  | relaying => exact absurd hstage hrelaying
  | judged supporting? =>
      obtain ⟨reports, hsend⟩ := hreports.exists_send? supporting?
      exact Or.inl ⟨.report, _, _, rfl, .reported hstage hsend⟩
  | ended => simp [Probe.running, hstage] at hrunning

/-- A call that has neither returned nor waits for an answer can go on, or be given up. -/
theorem ChainTask.canStep_of_retrieving {call : SessionCall}
    (hstage : task.stage = .retrieving call)
    (hsound : task.Sound) (hawaits : ¬ task.Awaits) : task.CanStep now cancelled commons := by
  unfold Sound at hsound
  unfold Awaits at hawaits
  simp only [hstage] at hsound hawaits
  cases hcall : call.stage with
  | begun =>
      cases hcancelled : cancelled with
      | true =>
          exact ⟨.abandon, _, _, rfl,
            .abandoned hstage rfl (by simp [SessionCall.isPending, hcall])⟩
      | false =>
          obtain ⟨next, after, hmoves⟩ := exists_look commons hstage hcall rfl now
          exact ⟨.call (.look now), next, after, decide_eq_true rfl, hmoves⟩
  | dispatching => exact absurd hcall hawaits
  | dispatched session completed =>
      obtain ⟨next, after, hmoves⟩ := exists_keep commons hstage hcall
      exact ⟨.call .keep, next, after, rfl, hmoves⟩
  | returned session => exact absurd hcall (hsound.1 session)
  | failed error => exact absurd hcall (hsound.2 error)

/-- A report that has been sent can be received. -/
theorem ChainTask.exists_receive (commons : TaskCommons) (hstage : task.stage = .probing probing)
    (hqueue : probing.reports.queue ≠ []) :
    ∃ next after, task.Moves cancelled commons .receive next after := by
  obtain ⟨supporting?, reports, hreceive⟩ := Channel.exists_receive? hqueue
  exact ⟨_, _, .received hstage (Option.map_eq_some_iff.mpr ⟨_, hreceive, rfl⟩)⟩

/-- The probes of a session can go on, unless no permit is free. -/
theorem ChainTask.canStep_of_probing (hstage : task.stage = .probing probing)
    (hsound : probing.Sound) (hawaits : ∀ probe ∈ probing.probes, probe.stage ≠ .relaying) :
    task.CanStep now cancelled commons ∨ cancelled = false ∧ commons.free = 0 := by
  by_cases hqueue : probing.reports.queue = []
  · rcases Nat.eq_zero_or_pos probing.reports.senders with hnone | hsome
    · exact Or.inl ⟨.conclude, _, _, rfl,
        .concluded hstage (Channel.isClosed_iff.mpr ⟨hnone, hqueue⟩)⟩
    · -- some probe has not reported yet, and there is room for its report
      rw [hsound.reports.senders_eq] at hsome
      obtain ⟨probe, hmem, hrunning⟩ := exists_of_total_ne_zero (Nat.ne_of_gt hsome)
      obtain ⟨place, hprobe⟩ := List.mem_iff_getElem?.mp hmem
      have hreports := hsound.reports
      rw [← Nat.succ_pred_eq_of_pos hsome] at hreports
      have hcan : probe.CanStep task.chain cancelled
          { free := commons.free, reports := probing.reports } ∨
            cancelled = false ∧ commons.free = 0 :=
        Probe.canStep task.chain cancelled hrunning (hawaits probe hmem) hreports
      rcases hcan with hstep | hfree
      · exact Or.inl (canStep_of_probe hstage hprobe hstep)
      · exact Or.inr hfree
  · obtain ⟨next, after, hmoves⟩ := exists_receive commons hstage hqueue
    exact Or.inl ⟨.receive, next, after, rfl, hmoves⟩

/-- A task that has not ended, and that waits for no answer, can go on unless its probes wait for
permits and none is free. -/
theorem ChainTask.canStep {others : Nat} (hsound : task.Sound) (hrunning : task.running ≠ 0)
    (hawaits : ¬ task.Awaits) (hdeliveries : commons.deliveries.Sound (others + 1)) :
    task.CanStep now cancelled commons ∨ cancelled = false ∧ commons.free = 0 := by
  cases hstage : task.stage with
  | retrieving call => exact Or.inl (canStep_of_retrieving hstage hsound hawaits)
  | probing probing =>
      unfold Sound at hsound
      unfold Awaits at hawaits
      simp only [hstage] at hsound hawaits
      exact canStep_of_probing hstage hsound fun probe hmem hrelaying =>
        hawaits ⟨probe, hmem, hrelaying⟩
  | probed session supporting =>
      obtain ⟨deliveries, hsend⟩ :=
        hdeliveries.exists_send? { key := session.key, nodes := supporting }
      exact Or.inl ⟨.deliver, _, _, rfl, .delivered hstage hsend⟩
  | ended => simp [running, hstage] at hrunning

end Tasks

/-! ## A check that can go on -/

namespace State

variable {permits : Nat} {state next : State} {action : Action} {now : Instant}

/-- What a task has delivered can be collected. -/
theorem exists_collect (hqueue : state.commons.deliveries.queue ≠ []) :
    ∃ next, state.Moves .collect next := by
  obtain ⟨delivery, deliveries, hreceive⟩ := Channel.exists_receive? hqueue
  exact ⟨_, .collected hreceive⟩

theorem canStep_of_task {task : ChainTask} (hmem : task ∈ state.tasks)
    (hstep : task.CanStep now state.cancelled state.commons) :
    ∃ action next, action.isOwn now = true ∧ state.Moves action next := by
  obtain ⟨action, moved, commons, hown, hmoves⟩ := hstep
  obtain ⟨place, htask⟩ := List.mem_iff_getElem?.mp hmem
  exact ⟨.task place action, _, hown, .task htask hmoves⟩

/-- With no permit free and no relay on the way, some probe has been given a permit and can send
its relay. -/
theorem Sound.exists_holder (hsound : state.Sound permits) (now : Instant) (hpositive : 0 < permits)
    (hawaits : ¬ state.Awaits) (hcancelled : state.cancelled = false)
    (hfree : state.commons.free = 0) :
    ∃ action next, action.isOwn now = true ∧ state.Moves action next := by
  have hheld : total ChainTask.permits state.tasks ≠ 0 := by
    have hpermits := hsound.permits_eq
    unfold State.permits at hpermits
    omega
  obtain ⟨task, htask, hpermits⟩ := exists_of_total_ne_zero hheld
  refine canStep_of_task htask ?_
  have htaskSound := hsound.tasks task htask
  have htaskAwaits : ¬ task.Awaits := fun hwaiting => hawaits ⟨task, htask, hwaiting⟩
  unfold ChainTask.permits at hpermits
  unfold ChainTask.Sound at htaskSound
  unfold ChainTask.Awaits at htaskAwaits
  split at hpermits
  · next probing hstage =>
      simp only [hstage] at htaskSound htaskAwaits
      obtain ⟨probe, hprobe, hholds⟩ := exists_of_total_ne_zero hpermits
      have hpermit : probe.permit = true := by
        unfold Probe.permits at hholds
        split at hholds
        · assumption
        · exact absurd rfl hholds
      have hprobeSound := htaskSound.probes probe hprobe
      unfold Probe.Sound at hprobeSound
      -- of the probes with a permit, those that are not waiting have a relay on the way
      have hwaiting : probe.stage = .waiting := by
        split at hprobeSound
        · assumption
        · next hrelaying => exact absurd ⟨probe, hprobe, hrelaying⟩ htaskAwaits
        · rw [hpermit] at hprobeSound
          cases hprobeSound
        · rw [hpermit] at hprobeSound
          cases hprobeSound
      obtain ⟨place, hplace⟩ := List.mem_iff_getElem?.mp hprobe
      exact ChainTask.canStep_of_probe hstage hplace
        ⟨.launch, _, _, rfl, .launched hwaiting hpermit hcancelled⟩
  · exact absurd rfl hpermits

/-- A check that has not returned, and waits for no answer, can go on by itself. -/
theorem Sound.canStep (hsound : state.Sound permits) (now : Instant) (hpositive : 0 < permits)
    (hover : state.isOver = false) (hawaits : ¬ state.Awaits) :
    ∃ action next, action.isOwn now = true ∧ state.Moves action next := by
  by_cases hqueue : state.commons.deliveries.queue = []
  · -- with nothing left to be collected, some task has not ended
    have hsenders : state.commons.deliveries.senders ≠ 0 := by
      intro hnone
      rw [isOver, Channel.isClosed_iff.mpr ⟨hnone, hqueue⟩] at hover
      cases hover
    rw [hsound.deliveries.senders_eq] at hsenders
    obtain ⟨task, hmem, hrunning⟩ := exists_of_total_ne_zero hsenders
    have hdeliveries := hsound.deliveries
    rw [← Nat.succ_pred_eq_of_ne_zero hsenders] at hdeliveries
    rcases ChainTask.canStep (hsound.tasks task hmem) hrunning
      (fun hwaiting => hawaits ⟨task, hmem, hwaiting⟩) hdeliveries with
      hstep | ⟨hcancelled, hfree⟩
    · exact canStep_of_task hmem hstep
    · exact hsound.exists_holder now hpositive hawaits hcancelled hfree
  · obtain ⟨next, hmoves⟩ := exists_collect hqueue
    exact ⟨.collect, next, rfl, hmoves⟩

/-! ## Answers that are outstanding -/

/-- The task waits for its session, and any answer is possible. -/
theorem exists_answer {place : Nat} {task : ChainTask} {call : SessionCall}
    (htask : state.tasks[place]? = some task) (hstage : task.stage = .retrieving call)
    (hcall : call.stage = .dispatching) (hcancelled : state.cancelled = false)
    (outcome : Except Error Session) (now : Instant) :
    ∃ next, state.Moves (.task place (.call (.answer outcome now))) next := by
  obtain ⟨moved, commons, hmoves⟩ :=
    ChainTask.exists_answer state.commons hstage hcall hcancelled outcome now
  exact ⟨_, .task htask hmoves⟩

/-- The node of a probe has been asked, and any answer is possible. -/
theorem exists_answered {place position : Nat} {task : ChainTask} {probing : Probing}
    {probe : Probe} (htask : state.tasks[place]? = some task)
    (hstage : task.stage = .probing probing)
    (hprobe : probing.probes[position]? = some probe) (hrelaying : probe.stage = .relaying)
    (hcancelled : state.cancelled = false) (outcome : Except Error RelayAnswer) :
    ∃ next, state.Moves (.task place (.probe position (.answered outcome))) next := by
  obtain ⟨moved, commons, hmoves⟩ :=
    Probe.Moves.of_task hstage hprobe (.answered outcome hrelaying hcancelled)
  exact ⟨_, .task htask hmoves⟩

/-- Whatever a check waits for can be answered at any instant, or dropped once the check is
cancelled. -/
theorem canStep_of_awaits (hawaits : state.Awaits) (now : Instant) :
    ∃ action next, action ≠ .cancel ∧ action.isAt now = true ∧ state.Moves action next := by
  obtain ⟨task, hmem, hwaiting⟩ := hawaits
  obtain ⟨place, htask⟩ := List.mem_iff_getElem?.mp hmem
  unfold ChainTask.Awaits at hwaiting
  split at hwaiting
  · next call hstage =>
      cases hcancelled : state.cancelled with
      | true =>
          exact ⟨.task place .abandon, _, by simp, rfl, .task htask
            (.abandoned hstage hcancelled (by simp [SessionCall.isPending, hwaiting]))⟩
      -- which answer comes does not matter, so a refusal stands for all of them
      | false =>
          obtain ⟨next, hmoves⟩ :=
            exists_answer htask hstage hwaiting hcancelled (.error (.other "")) now
          exact ⟨.task place (.call (.answer (.error (.other "")) now)), next, by simp,
            decide_eq_true rfl, hmoves⟩
  · next probing hstage =>
      obtain ⟨probe, hprobe, hrelaying⟩ := hwaiting
      obtain ⟨position, hposition⟩ := List.mem_iff_getElem?.mp hprobe
      cases hcancelled : state.cancelled with
      | true =>
          obtain ⟨moved, commons, hmoves⟩ :=
            Probe.Moves.of_task hstage hposition (.dropped (Or.inr hrelaying) hcancelled)
          exact ⟨.task place (.probe position .drop), _, by simp, rfl, .task htask hmoves⟩
      | false =>
          obtain ⟨next, hmoves⟩ := exists_answered htask hstage hposition hrelaying hcancelled
            (.error (.other ""))
          exact ⟨_, next, Action.noConfusion, rfl, hmoves⟩
  · cases hwaiting
  · cases hwaiting

/-! ## The end -/

/-- A check that has not returned can go on at any instant, if what it waits for is answered. -/
theorem Sound.exists_next (hsound : state.Sound permits) (hpositive : 0 < permits)
    (hover : state.isOver = false) (now : Instant) :
    ∃ action next, action ≠ .cancel ∧ action.isAt now = true ∧ state.Moves action next := by
  rcases Classical.em state.Awaits with hawaits | hawaits
  · exact canStep_of_awaits hawaits now
  · obtain ⟨action, next, hown, hmoves⟩ := hsound.canStep now hpositive hover hawaits
    refine ⟨action, next, ?_, Action.isAt_of_isOwn hown, hmoves⟩
    rintro rfl
    cases hown

/-- A check that cannot go on, whatever is answered to it, has returned. -/
theorem Sound.isOver_of_stuck (hsound : state.Sound permits) (hpositive : 0 < permits)
    (hstuck : ∀ action, action ≠ .cancel → step state action = none) : state.isOver = true := by
  cases hover : state.isOver with
  | true => rfl
  | false =>
      obtain ⟨action, next, hother, -, hmoves⟩ := hsound.exists_next hpositive hover 0
      rw [← step_eq_some_iff, hstuck action hother] at hmoves
      cases hmoves

/-- No schedule goes on for ever. -/
theorem steps_wellFounded :
    WellFounded fun next state : State => ∃ action, Possible step state action next := by
  have hlex : WellFounded (Prod.lex Nat.lt_wfRel Nat.lt_wfRel).rel :=
    (Prod.lex Nat.lt_wfRel Nat.lt_wfRel).wf
  refine Subrelation.wf ?_
    (InvImage.wf (fun state : State => (state.retrieving, state.budget)) hlex)
  rintro next state ⟨action, hstep⟩
  exact Prod.lex_def.mpr (step_eq_some_iff.mp hstep).remaining

theorem not_forever (states : Nat → State) :
    ¬ ∀ n, ∃ action, Possible step (states n) action (states (n + 1)) := by
  suffices hfrom : ∀ state (states : Nat → State), states 0 = state →
      ¬ ∀ n, ∃ action, Possible step (states n) action (states (n + 1)) from
    hfrom (states 0) states rfl
  intro state
  induction state using steps_wellFounded.induction with
  | _ state ih =>
      rintro states rfl hforever
      exact ih (states 1) (hforever 0) (fun n => states (n + 1)) rfl fun n => hforever (n + 1)

end State

end ChainGateway.Check
