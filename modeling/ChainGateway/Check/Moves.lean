import ChainGateway.Check.Step

/-!
# What a step of a check can be

The steps of probes, of tasks and of the whole check, one case for each way in which an action is
possible, with the condition under which it is and what it leads to.  Whatever is said about all
steps is said by cases on these.
-/

namespace ChainGateway.Check

inductive Probe.Moves (chain : Blockchain) (cancelled : Bool) (probe : Probe)
    (commons : ProbeCommons) : ProbeAction → Probe → ProbeCommons → Prop
  | granted (hstage : probe.stage = .waiting) (hpermit : probe.permit = false)
      (hfree : 0 < commons.free) :
      Moves chain cancelled probe commons .grant { probe with permit := true }
        { commons with free := commons.free - 1 }
  | launched (hstage : probe.stage = .waiting) (hpermit : probe.permit = true)
      (hcancelled : cancelled = false) :
      Moves chain cancelled probe commons .launch { probe with stage := .relaying } commons
  | answered (outcome : Except Error RelayAnswer) (hstage : probe.stage = .relaying)
      (hcancelled : cancelled = false) :
      Moves chain cancelled probe commons (.answered outcome)
        { probe with
          stage := .judged (if verifies chain outcome then some probe.node else none)
          permit := false }
        { commons with free := commons.free + probe.permits }
  | dropped (hstage : probe.stage = .waiting ∨ probe.stage = .relaying)
      (hcancelled : cancelled = true) :
      Moves chain cancelled probe commons .drop
        { probe with stage := .judged none, permit := false }
        { commons with free := commons.free + probe.permits }
  | reported {supporting? : Option Node} {reports : Channel (Option Node)}
      (hstage : probe.stage = .judged supporting?)
      (hsend : commons.reports.send? supporting? = some reports) :
      Moves chain cancelled probe commons .report { probe with stage := .ended }
        { commons with reports }

theorem Probe.step_eq_some_iff {chain : Blockchain} {cancelled : Bool} {probe next : Probe}
    {commons after : ProbeCommons} {action : ProbeAction} :
    probe.step chain cancelled commons action = some (next, after) ↔
      probe.Moves chain cancelled commons action next after := by
  constructor
  · intro hstep
    cases action with
    | grant =>
        obtain ⟨hready, hnext⟩ := Option.ite_none_right_eq_some.mp hstep
        cases hnext
        exact .granted hready.1 hready.2.1 hready.2.2
    | launch =>
        obtain ⟨hready, hnext⟩ := Option.ite_none_right_eq_some.mp hstep
        cases hnext
        exact .launched hready.1 hready.2.1 hready.2.2
    | answered outcome =>
        obtain ⟨hready, hnext⟩ := Option.ite_none_right_eq_some.mp hstep
        cases hnext
        exact .answered outcome hready.1 hready.2
    | drop =>
        obtain ⟨hready, hnext⟩ := Option.ite_none_right_eq_some.mp hstep
        cases hnext
        exact .dropped hready.1 hready.2
    | report =>
        simp only [Probe.step] at hstep
        split at hstep
        · next hstage =>
            obtain ⟨reports, hsend, hnext⟩ := Option.map_eq_some_iff.mp hstep
            cases hnext
            exact .reported hstage hsend
        · cases hstep
  · intro hmoves
    cases hmoves with
    | granted hstage hpermit hfree => simp [Probe.step, hstage, hpermit, hfree]
    | launched hstage hpermit hcancelled => simp [Probe.step, hstage, hpermit, hcancelled]
    | answered outcome hstage hcancelled => simp [Probe.step, Probe.judge, hstage, hcancelled]
    | dropped hstage hcancelled => simp [Probe.step, Probe.judge, hstage, hcancelled]
    | reported hstage hsend => simp [Probe.step, hstage, hsend]

theorem Probing.step_eq_some_iff {chain : Blockchain} {cancelled : Bool} {probing next : Probing}
    {free after place : Nat} {action : ProbeAction} :
    probing.step chain cancelled free place action = some (next, after) ↔
      ∃ probe moved reports, probing.probes[place]? = some probe ∧
        probe.Moves chain cancelled { free, reports := probing.reports } action moved
          { free := after, reports } ∧
        next = { probing with probes := probing.probes.set place moved, reports } := by
  unfold Probing.step
  constructor
  · intro hstep
    split at hstep
    · next probe hprobe =>
        obtain ⟨⟨moved, commons⟩, hmoves, hnext⟩ := Option.map_eq_some_iff.mp hstep
        cases hnext
        exact ⟨probe, moved, commons.reports, hprobe, Probe.step_eq_some_iff.mp hmoves, rfl⟩
    · cases hstep
  · rintro ⟨probe, moved, reports, hprobe, hmoves, rfl⟩
    simp [hprobe, Probe.step_eq_some_iff.mpr hmoves]

inductive ChainTask.Moves (cancelled : Bool) (task : ChainTask) (commons : TaskCommons) :
    TaskAction → ChainTask → TaskCommons → Prop
  | called {call next : SessionCall} {action : SessionCall.Action} {sessions : SessionCache}
      (hstage : task.stage = .retrieving call)
      (hwaits : (cancelled && call.isPending) = false)
      (hcall : call.Moves commons.sessions action next sessions)
      (hreturned : ∀ session, next.stage ≠ .returned session)
      (hfailed : ∀ error, next.stage ≠ .failed error) :
      Moves cancelled task commons (.call action) (task.goTo (.retrieving next))
        { commons with sessions }
  | obtained {call next : SessionCall} {action : SessionCall.Action} {sessions : SessionCache}
      {session : Session} (hstage : task.stage = .retrieving call)
      (hwaits : (cancelled && call.isPending) = false)
      (hcall : call.Moves commons.sessions action next sessions)
      (hreturned : next.stage = .returned session) :
      Moves cancelled task commons (.call action) (task.startProbes session)
        { commons with sessions }
  | unobtained {call next : SessionCall} {action : SessionCall.Action} {sessions : SessionCache}
      {error : Error} (hstage : task.stage = .retrieving call)
      (hwaits : (cancelled && call.isPending) = false)
      (hcall : call.Moves commons.sessions action next sessions)
      (hfailed : next.stage = .failed error) :
      Moves cancelled task commons (.call action) (task.goTo .ended)
        { commons with sessions, deliveries := commons.deliveries.leave }
  /-- It breaks down as it keeps its session. -/
  | crashed {call : SessionCall} {session : Session} {completed : Instant} {fault : Fault}
      (hstage : task.stage = .retrieving call)
      (hdispatched : call.stage = .dispatched session completed)
      (hinsert : commons.sessions.insert call.key session completed = .error fault) :
      Moves cancelled task commons (.call .keep) (task.goTo .ended)
        { commons with
          sessions := call.wreckage commons.sessions
          deliveries := commons.deliveries.leave }
  | abandoned {call : SessionCall} (hstage : task.stage = .retrieving call)
      (hcancelled : cancelled = true) (hpending : call.isPending = true) :
      Moves cancelled task commons .abandon (task.goTo .ended)
        { commons with deliveries := commons.deliveries.leave }
  | probed {probing next : Probing} {place free : Nat} {action : ProbeAction}
      (hstage : task.stage = .probing probing)
      (hprobe : probing.step task.chain cancelled commons.free place action = some (next, free)) :
      Moves cancelled task commons (.probe place action) (task.goTo (.probing next))
        { commons with free }
  | received {probing next : Probing} (hstage : task.stage = .probing probing)
      (hreceive : probing.receive? = some next) :
      Moves cancelled task commons .receive (task.goTo (.probing next)) commons
  | concluded {probing : Probing} (hstage : task.stage = .probing probing)
      (hclosed : probing.reports.isClosed = true) :
      Moves cancelled task commons .conclude
        (task.goTo (.probed probing.session probing.supporting)) commons
  | delivered {session : Session} {supporting : List Node} {deliveries : Channel Delivery}
      (hstage : task.stage = .probed session supporting)
      (hsend : commons.deliveries.send? { key := session.key, nodes := supporting } =
        some deliveries) :
      Moves cancelled task commons .deliver (task.goTo .ended) { commons with deliveries }

theorem ChainTask.moves_afterCall {cancelled : Bool} {task : ChainTask} {commons : TaskCommons}
    {call next : SessionCall} {action : SessionCall.Action} {sessions : SessionCache}
    (hstage : task.stage = .retrieving call) (hwaits : (cancelled && call.isPending) = false)
    (hcall : call.Moves commons.sessions action next sessions) :
    task.Moves cancelled commons (.call action)
      (task.afterCall { commons with sessions } next).1
      (task.afterCall { commons with sessions } next).2 := by
  unfold ChainTask.afterCall
  split
  · next hreturned => exact .obtained hstage hwaits hcall hreturned
  · next hfailed => exact .unobtained hstage hwaits hcall hfailed
  · next hreturned hfailed => exact .called hstage hwaits hcall hreturned hfailed

theorem ChainTask.step_eq_some_iff {cancelled : Bool} {task next : ChainTask}
    {commons after : TaskCommons} {action : TaskAction} :
    task.step cancelled commons action = some (next, after) ↔
      task.Moves cancelled commons action next after := by
  constructor
  · intro hstep
    cases action with
    | call action =>
        simp only [ChainTask.step] at hstep
        split at hstep
        · next call hstage =>
            split at hstep
            · cases hstep
            · next hwaits =>
                split at hstep
                · next result hcall =>
                    obtain ⟨⟨moved, sessions⟩, rfl, hnext⟩ := Option.map_eq_some_iff.mp hstep
                    have hmoves := moves_afterCall hstage (eq_false_of_ne_true hwaits)
                      (SessionCall.step_eq_ok_iff.mp hcall)
                    simp only at hnext
                    rwa [hnext] at hmoves
                · -- the call breaks down, and takes the task with it
                  next hfault =>
                    obtain ⟨rfl, session, completed, hdispatched, hinsert⟩ :=
                      SessionCall.step_eq_error_iff.mp hfault
                    cases hstep
                    exact .crashed hstage hdispatched hinsert
        · cases hstep
    | abandon =>
        simp only [ChainTask.step] at hstep
        split at hstep
        · next call hstage =>
            obtain ⟨hready, hnext⟩ := Option.ite_none_right_eq_some.mp hstep
            cases hnext
            rw [Bool.and_eq_true] at hready
            exact .abandoned hstage hready.1 hready.2
        · cases hstep
    | probe place action =>
        simp only [ChainTask.step] at hstep
        split at hstep
        · next probing hstage =>
            obtain ⟨⟨probing, free⟩, hprobe, hnext⟩ := Option.map_eq_some_iff.mp hstep
            cases hnext
            exact .probed hstage hprobe
        · cases hstep
    | receive =>
        simp only [ChainTask.step] at hstep
        split at hstep
        · next probing hstage =>
            obtain ⟨probing, hreceive, hnext⟩ := Option.map_eq_some_iff.mp hstep
            cases hnext
            exact .received hstage hreceive
        · cases hstep
    | conclude =>
        simp only [ChainTask.step] at hstep
        split at hstep
        · next probing hstage =>
            obtain ⟨hclosed, hnext⟩ := Option.ite_none_right_eq_some.mp hstep
            cases hnext
            exact .concluded hstage hclosed
        · cases hstep
    | deliver =>
        simp only [ChainTask.step] at hstep
        split at hstep
        · next session supporting hstage =>
            obtain ⟨deliveries, hsend, hnext⟩ := Option.map_eq_some_iff.mp hstep
            cases hnext
            exact .delivered hstage hsend
        · cases hstep
  · intro hmoves
    cases hmoves with
    | called hstage hwaits hcall hreturned hfailed =>
        simp only [ChainTask.step, hstage, hwaits, SessionCall.step_eq_ok_iff.mpr hcall,
          Option.map_some, ChainTask.afterCall, Bool.false_eq_true, if_false]
    | obtained hstage hwaits hcall hreturned =>
        simp [ChainTask.step, hstage, hwaits, SessionCall.step_eq_ok_iff.mpr hcall,
          ChainTask.afterCall, hreturned]
    | unobtained hstage hwaits hcall hfailed =>
        simp [ChainTask.step, hstage, hwaits, SessionCall.step_eq_ok_iff.mpr hcall,
          ChainTask.afterCall, ChainTask.endWithout, hfailed]
    | crashed hstage hdispatched hinsert =>
        have hfault := SessionCall.step_eq_error_iff.mpr ⟨rfl, _, _, hdispatched, hinsert⟩
        simp [ChainTask.step, hstage, SessionCall.isPending, hdispatched, hfault,
          ChainTask.endWithout]
    | abandoned hstage hcancelled hpending =>
        simp [ChainTask.step, hstage, hcancelled, hpending, ChainTask.endWithout]
    | probed hstage hprobe => simp [ChainTask.step, hstage, hprobe]
    | received hstage hreceive => simp [ChainTask.step, hstage, hreceive]
    | concluded hstage hclosed => simp [ChainTask.step, hstage, hclosed]
    | delivered hstage hsend => simp [ChainTask.step, hstage, hsend]

inductive State.Moves (state : State) : Action → State → Prop
  | cancelled (hcancelled : state.cancelled = false) :
      Moves state .cancel { state with cancelled := true }
  | task {place : Nat} {task next : ChainTask} {commons : TaskCommons} {action : TaskAction}
      (htask : state.tasks[place]? = some task)
      (hmoves : task.Moves state.cancelled state.commons action next commons) :
      Moves state (.task place action)
        { state with tasks := state.tasks.set place next, commons }
  | collected {delivery : Delivery} {deliveries : Channel Delivery}
      (hreceive : state.commons.deliveries.receive? = some (delivery, deliveries)) :
      Moves state .collect
        { state with
          commons := { state.commons with deliveries }
          results := state.results.insert delivery.key delivery.nodes }

theorem step_eq_some_iff {state next : State} {action : Action} :
    step state action = some next ↔ state.Moves action next := by
  constructor
  · intro hstep
    cases action with
    | cancel =>
        simp only [step] at hstep
        obtain ⟨hcancelled, hnext⟩ := Option.ite_none_left_eq_some.mp hstep
        cases hnext
        exact .cancelled (eq_false_of_ne_true hcancelled)
    | task place action =>
        simp only [step] at hstep
        split at hstep
        · next task htask =>
            obtain ⟨⟨moved, commons⟩, htaskStep, rfl⟩ := Option.map_eq_some_iff.mp hstep
            exact .task htask (ChainTask.step_eq_some_iff.mp htaskStep)
        · cases hstep
    | collect =>
        simp only [step] at hstep
        obtain ⟨⟨delivery, deliveries⟩, hreceive, hnext⟩ := Option.map_eq_some_iff.mp hstep
        cases hnext
        exact .collected hreceive
  · intro hmoves
    cases hmoves with
    | cancelled hcancelled => simp [step, hcancelled]
    | task htask hmoves => simp [step, htask, ChainTask.step_eq_some_iff.mpr hmoves]
    | collected hreceive => simp [step, hreceive]

end ChainGateway.Check
