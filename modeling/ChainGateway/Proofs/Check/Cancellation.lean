import ChainGateway.Proofs.Check.Results
import ChainGateway.Proofs.Check.Runs

/-!
# What a cancelled check returns

A check may be cancelled at any moment.  What it returns then was found out before: the sessions
whose keys are listed were in the cache, or were returned by the dispatch service, before the
cancellation, and the nodes under a key are nodes of that session that had answered the probe of
the chain by then.  After the cancellation no session is looked for, no node is probed and no
answer is taken any more, and a retrieval that is cut off does not touch the session cache
(`cancellation_heeded`).

A call that has the answer of the service waits for nothing, and so it is not given up: it keeps
the session even if the check is cancelled in between.  That, and the room that is made for a
session whose keeping breaks the task down, is the only way in which the session cache changes
after a cancellation.

## Strategy

Whatever a task has is traced back to the step that brought it.  The session was brought by a
look into the cache or by an answer (`sourced_of_trace`), a node by the answer to its probe
(`confirms_of_verified`), and neither is possible once the check is cancelled.  Nothing but keeping
a session changes the cache, and a task that is about to keep one cannot be given up any more
(`not_keep_of_abandoned`).  A check that is cancelled before it begins stays as it is, but for its
tasks giving up one after another (`Untouched`).
-/

namespace ChainGateway.Check

/-! ## What came before the cancellation -/

/-- The session that a step brings to its task: it was found in the cache, or the service
returned it. -/
def retrieved? (moment : TaskStep) : Option Session :=
  match moment.action.action with
  | .call (.look _) => obtained? moment
  | .call (.answer outcome _) => outcome.toOption
  | _ => none

/-- The session came to the task before the cancellation. -/
def Retrieved (log : List TaskStep) (session : Session) : Prop :=
  ∃ moment ∈ log, retrieved? moment = some session ∧ moment.action.cancelled = false

/-- The step is the answer of a node of the session, with the identity of the chain, and comes
before the cancellation. -/
def Confirms (chain : Blockchain) (session : Session) (node : Node) (moment : TaskStep) : Prop :=
  moment.before.chain = chain ∧ moment.action.cancelled = false ∧
    ∃ probing position probe answer, moment.before.stage = .probing probing ∧
      probing.session = session ∧ probing.probes[position]? = some probe ∧ probe.node = node ∧
      moment.action.action = .probe position (.answered (.ok answer)) ∧
      answer.response = chain.identity

/-- Does the action begin to retrieve a session or to probe a node, or take an answer to either? -/
def TaskAction.isPrevented : TaskAction → Bool
  | .call (.look _) | .call (.answer _ _) | .probe _ .launch | .probe _ (.answered _) => true
  | _ => false

def Action.isPrevented : Action → Bool
  | .task _ action => action.isPrevented
  | .cancel | .collect => false

/-! ## After the cancellation -/

/-- What a call that would wait does, it does before the cancellation. -/
theorem cancelled_of_isPending {call : SessionCall} {cancelled : Bool}
    (hwaits : (cancelled && call.isPending) = false) (hpending : call.isPending = true) :
    cancelled = false := by
  rwa [hpending, Bool.and_true] at hwaits

/-- Nothing is begun, and no answer taken, once the check is cancelled. -/
theorem ChainTask.Moves.uncancelled {cancelled : Bool} {task next : ChainTask}
    {commons after : TaskCommons} {action : TaskAction}
    (hmoves : task.Moves cancelled commons action next after)
    (hprevented : action.isPrevented = true) : cancelled = false := by
  cases hmoves with
  | called _ hwaits hcall | obtained _ hwaits hcall | unobtained _ hwaits hcall =>
      cases hcall with
      | found hstage | missed hstage | dispatched hstage | refused hstage =>
          exact cancelled_of_isPending hwaits (by simp [SessionCall.isPending, hstage])
      | kept => cases hprevented
  | probed _ hprobed =>
      obtain ⟨_, _, _, _, hmoves, -⟩ := Probing.step_eq_some_iff.mp hprobed
      cases hmoves with
      | launched _ _ hcancelled | answered _ _ hcancelled => exact hcancelled
      | granted | dropped | reported => cases hprevented
  | crashed | abandoned | received | concluded | delivered => cases hprevented

theorem State.Moves.uncancelled {state next : State} {action : Action}
    (hmoves : state.Moves action next) (hprevented : action.isPrevented = true) :
    state.cancelled = false := by
  cases hmoves with
  | cancelled | collected => cases hprevented
  | task htask hmoves => exact hmoves.uncancelled hprevented

/-! ## Where a session came from -/

/-- A session that the task has, or has been answered, came to it before the cancellation. -/
structure Sourced (log : List TaskStep) (task : ChainTask) : Prop where
  dispatched : ∀ call session completed, task.stage = .retrieving call →
    call.stage = .dispatched session completed → Retrieved log session
  obtained : ∀ session ∈ log.filterMap obtained?, Retrieved log session

theorem Retrieved.append {log : List TaskStep} {session : Session}
    (hretrieved : Retrieved log session) (later : List TaskStep) :
    Retrieved (log ++ later) session := by
  obtain ⟨moment, hmem, hsession⟩ := hretrieved
  exact ⟨moment, List.mem_append_left _ hmem, hsession⟩

variable {log : List TaskStep} {task next : ChainTask} {event : TaskEvent}

/-- A step that brings no session, and after which no session waits to be kept. -/
theorem Sourced.keep (hsourced : Sourced log task)
    (hobtained : obtained? ⟨task, event, next⟩ = none)
    (hdispatched : ∀ call session completed, next.stage = .retrieving call →
      call.stage ≠ .dispatched session completed) :
    Sourced (log ++ [⟨task, event, next⟩]) next where
  dispatched call session completed hstage hcall :=
    absurd hcall (hdispatched call session completed hstage)
  obtained session hmem := by
    rw [filterMap_append_singleton, hobtained, Option.toList_none, List.append_nil] at hmem
    exact (hsourced.obtained session hmem).append _

theorem Sourced.step (hsourced : Sourced log task) (hevolves : task.Evolves event next) :
    Sourced (log ++ [⟨task, event, next⟩]) next := by
  obtain ⟨cancelled, action⟩ := event
  obtain ⟨commons, after, hmoves⟩ := hevolves
  cases hmoves with
  -- only the answer of the service brings a session while the call goes on
  | called hstage hwaits hcall hreturned hfailed =>
      have hnone : ∀ moved event,
          obtained? ⟨task, event, task.goTo (.retrieving moved)⟩ = none := by
        simp [obtained?, hstage, ChainTask.goTo]
      cases hcall with
      | found => exact absurd rfl (hreturned _)
      | refused => exact absurd rfl (hfailed _)
      | kept => exact absurd rfl (hreturned _)
      | missed hbegun hlookup =>
          refine hsourced.keep (hnone _ _) fun moved session completed hmoved => ?_
          cases hmoved
          simp [SessionCall.goTo]
      | @dispatched session now hdispatching =>
          -- the service has answered, which it could only before the cancellation
          have hpending := cancelled_of_isPending hwaits
            (by simp [SessionCall.isPending, hdispatching])
          refine ⟨fun moved other completed hmoved hother => ?_, fun other hmem => ?_⟩
          · cases hmoved
            cases hother
            exact ⟨_, List.mem_append_right _ (List.mem_singleton_self _), rfl, hpending⟩
          · rw [filterMap_append_singleton, hnone, Option.toList_none, List.append_nil] at hmem
            exact (hsourced.obtained other hmem).append _
  | @obtained call moved action sessions session hstage hwaits hcall hreturned =>
      have hsome : obtained? ⟨task, { cancelled, action := .call action },
          task.startProbes session⟩ = some session := by
        simp [obtained?, hstage, ChainTask.startProbes, ChainTask.goTo, Probing.ofSession]
      -- found in the cache it comes with this step, kept it came with an earlier one
      have hretrieved : Retrieved (log ++ [⟨task, { cancelled, action := .call action },
          task.startProbes session⟩]) session := by
        cases hcall with
        | found hbegun hlookup =>
            have hpending := cancelled_of_isPending hwaits
              (by simp [SessionCall.isPending, hbegun])
            exact ⟨_, List.mem_append_right _ (List.mem_singleton_self _), hsome, hpending⟩
        | kept hkept hinsert =>
            cases hreturned
            exact (hsourced.dispatched _ _ _ hstage hkept).append _
        | missed | dispatched | refused => cases hreturned
      refine ⟨fun _ _ _ hprobing => ?_, fun other hmem => ?_⟩
      · cases hprobing
      · rw [filterMap_append_singleton, hsome, Option.toList_some, List.mem_append,
          List.mem_singleton] at hmem
        rcases hmem with hearlier | rfl
        · exact (hsourced.obtained other hearlier).append _
        · exact hretrieved
  | unobtained hstage | crashed hstage | abandoned hstage | probed hstage | received hstage
  | concluded hstage | delivered hstage =>
      refine hsourced.keep (by simp [obtained?, hstage, ChainTask.goTo]) ?_
      intro other session completed hother
      cases hother

/-- A session that the task obtained came to it before the cancellation. -/
theorem sourced_of_trace {token : Token} {chain : Blockchain}
    (htrace : Trace ChainTask.Evolves (ChainTask.ofChain token chain) log task) :
    Sourced log task := by
  induction htrace with
  | start =>
      refine ⟨fun call session completed hstage hcall => ?_, by simp⟩
      cases hstage
      cases hcall
  | step htrace hevolves ih => exact ih.step hevolves

/-! ## Where a node came from -/

/-- A node that a probe verified is a node of the session, and it has answered before the
cancellation. -/
theorem confirms_of_verified {token : Token} {chain : Blockchain} {session : Session}
    (htrace : Trace ChainTask.Evolves (ChainTask.ofChain token chain) log task)
    (hobtained : log.filterMap obtained? = [session]) {node : Node}
    (hverified : node ∈ log.filterMap verified?) :
    node ∈ session.nodes ∧ ∃ moment ∈ log, Confirms chain session node moment := by
  obtain ⟨moment, hmem, hnode⟩ := List.mem_filterMap.mp hverified
  obtain ⟨earlier, later, rfl, hbefore, hevolves, -⟩ := htrace.cut hmem
  obtain ⟨hchain, hsound, haccounted⟩ := accounted_of_trace hbefore
  obtain ⟨task, ⟨cancelled, action⟩, next⟩ := moment
  unfold verified? at hnode
  split at hnode
  · next probing position outcome hstage haction =>
      simp only at hstage haction hnode
      subst haction
      -- the step is cut out of the log, so that the account of the task before it can be read
      obtain ⟨hverifies, hnode⟩ := Option.ite_none_right_eq_some.mp hnode
      obtain ⟨probe, hprobe, rfl⟩ := Option.map_eq_some_iff.mp hnode
      -- the session being probed is the one that was obtained
      have hsession : probing.session = session := by
        simp only [Accounted, hstage] at haccounted
        rw [List.filterMap_append, haccounted.1] at hobtained
        exact (List.cons.inj hobtained).1
      refine ⟨?_, _, hmem, hchain, ?_, probing, position, probe, ?_⟩
      · simp only [ChainTask.Sound, hstage] at hsound
        rw [← hsession, ← hsound.nodes]
        exact List.mem_map_of_mem (List.mem_of_getElem? hprobe)
      · -- no answer is taken once the check is cancelled
        obtain ⟨commons, after, hmoves⟩ := hevolves
        exact hmoves.uncancelled rfl
      · cases outcome with
        | error error => cases hverifies
        | ok answer =>
            refine ⟨answer, hstage, hsession, hprobe, rfl, rfl, ?_⟩
            rw [← hchain]
            simpa [verifies] using hverifies
  · cases hnode

/-! ## Changes of the session cache -/

/-- A task leaves the session cache as it is, or is about to keep the session that it was answered:
it obtains the session, or breaks down. -/
theorem ChainTask.Moves.sessions_eq {cancelled : Bool} {commons after : TaskCommons}
    {action : TaskAction} (hmoves : task.Moves cancelled commons action next after) :
    after.sessions = commons.sessions ∨ action = .call .keep ∧
      ∃ call session completed, task.stage = .retrieving call ∧
        call.stage = .dispatched session completed ∧
        (obtained? ⟨task, { cancelled, action }, next⟩ = some session ∨ next.stage = .ended) := by
  cases hmoves with
  | called hstage hwaits hcall hreturned hfailed =>
      cases hcall with
      | kept => exact absurd rfl (hreturned _)
      | found | missed | dispatched | refused => exact Or.inl rfl
  | obtained hstage hwaits hcall hreturned =>
      cases hcall with
      | kept hdispatched =>
          cases hreturned
          refine Or.inr ⟨rfl, _, _, _, hstage, hdispatched, Or.inl ?_⟩
          simp [obtained?, hstage, ChainTask.startProbes, ChainTask.goTo, Probing.ofSession]
      | found | missed | dispatched | refused => exact Or.inl rfl
  | unobtained hstage hwaits hcall hfailed =>
      cases hcall with
      | kept => cases hfailed
      | found | missed | dispatched | refused => exact Or.inl rfl
  | crashed hstage hdispatched =>
      exact Or.inr ⟨rfl, _, _, _, hstage, hdispatched, Or.inr rfl⟩
  | abandoned | probed | received | concluded | delivered => exact Or.inl rfl

/-- A task that has ended takes no further step. -/
theorem ChainTask.Moves.ne_ended {cancelled : Bool} {commons after : TaskCommons}
    {action : TaskAction} (hmoves : task.Moves cancelled commons action next after) :
    task.stage ≠ .ended := by
  intro hended
  cases hmoves with
  | called hstage | obtained hstage | unobtained hstage | crashed hstage | abandoned hstage
  | probed hstage | received hstage | concluded hstage | delivered hstage =>
      rw [hended] at hstage
      cases hstage

/-- A task that still calls for its session has kept none. -/
theorem not_keep_of_retrieving {token : Token} {chain : Blockchain} {call : SessionCall}
    (htrace : Trace ChainTask.Evolves (ChainTask.ofChain token chain) log task)
    (hstage : task.stage = .retrieving call) :
    ∀ moment ∈ log, moment.action.action ≠ .call .keep := by
  induction htrace generalizing call with
  | start => simp
  | @step log task next event htrace hevolves ih =>
      obtain ⟨cancelled, action⟩ := event
      obtain ⟨commons, after, hmoves⟩ := hevolves
      intro moment hmem
      cases hmoves with
      | called hcalling hwaits hcall hreturned hfailed =>
          rcases List.mem_append.mp hmem with hearlier | hlast
          · exact ih hcalling moment hearlier
          · rw [List.mem_singleton.mp hlast]
            rintro ⟨⟩
            -- the session would have been returned
            cases hcall with
            | kept => exact hreturned _ rfl
      | obtained | unobtained | crashed | abandoned | probed | received | concluded | delivered =>
          cases hstage

/-- A task that gave up has ended, and never kept a session. -/
theorem not_keep_of_abandoned {token : Token} {chain : Blockchain}
    (htrace : Trace ChainTask.Evolves (ChainTask.ofChain token chain) log task)
    (habandoned : ∃ moment ∈ log, moment.action.action = .abandon) :
    task.stage = .ended ∧ ∀ moment ∈ log, moment.action.action ≠ .call .keep := by
  induction htrace with
  | start => simp at habandoned
  | @step log task next event htrace hevolves ih =>
      obtain ⟨moment, hmem, haction⟩ := habandoned
      obtain ⟨cancelled, action⟩ := event
      obtain ⟨commons, after, hmoves⟩ := hevolves
      rcases List.mem_append.mp hmem with hearlier | hlast
      · -- once it has given up, no step can follow
        have hended := (ih ⟨moment, hearlier, haction⟩).1
        exact absurd hended hmoves.ne_ended
      · rw [List.mem_singleton] at hlast
        subst hlast
        cases haction
        cases hmoves with
        -- it gives up with this step, so it still called for its session until now
        | abandoned hstage hcancelled hpending =>
            refine ⟨rfl, fun other hother => ?_⟩
            rcases List.mem_append.mp hother with hearlier | hlast
            · exact not_keep_of_retrieving htrace hstage other hearlier
            · rw [List.mem_singleton.mp hlast]
              nofun

/-! ## The steps of a check -/

section Checks

variable {token : Token} {chains : List Blockchain} {permits : Nat} {sessions : SessionCache}
  {history : List Step} {state : State}

/-- A step that a task took in the check is among the steps of the task. -/
theorem exists_own {start : State} (htrace : Trace (Possible step) start history state)
    {moment : Step} (hmem : moment ∈ history) {place : Nat} {action : TaskAction}
    (haction : moment.action = .task place action) :
    ∃ task moved,
      ⟨task, { cancelled := moment.before.cancelled, action }, moved⟩ ∈ own place history ∧
      moment.after.tasks[place]? = some moved ∧
      task.Moves moment.before.cancelled moment.before.commons action moved
        moment.after.commons := by
  have hstep := htrace.steps_of_mem hmem
  obtain ⟨before, taken, after⟩ := moment
  cases haction
  have hmoves : before.Moves (.task place action) after := step_eq_some_iff.mp hstep
  cases hmoves with
  | @task _ task moved commons _ htask hmoves =>
      exact ⟨task, moved, List.mem_filterMap.mpr ⟨_, hmem, own?_self htask action moved commons⟩,
        List.getElem?_set_self (List.getElem?_eq_some_iff.mp htask).1, hmoves⟩

/-- The session cache changes only as a task is about to keep a session that came to it before the
cancellation. -/
theorem retrieved_of_sessions_ne
    (htrace : Trace (Possible step) (.initial token chains permits sessions) history state)
    {moment : Step} (hmem : moment ∈ history)
    (hchanged : moment.after.commons.sessions ≠ moment.before.commons.sessions) :
    ∃ place session, moment.action = .task place (.call .keep) ∧
      Retrieved (own place history) session ∧
      (session ∈ obtainedBy place history ∨
        ∃ task, moment.after.tasks[place]? = some task ∧ task.stage = .ended) := by
  have hmoves := step_eq_some_iff.mp (htrace.steps_of_mem hmem)
  cases haction : moment.action with
  | cancel | collect =>
      rw [haction] at hmoves
      generalize moment.after = after at hmoves hchanged
      cases hmoves
      exact absurd rfl hchanged
  | task place action =>
      obtain ⟨task, moved, hown, hmoved, hmoves⟩ := exists_own htrace hmem haction
      rcases hmoves.sessions_eq with
        hsame | ⟨rfl, call, session, completed, hstage, hdispatched, hkept⟩
      · exact absurd hsame hchanged
      · obtain ⟨chain, hchain⟩ := chain_of_own htrace (List.ne_nil_of_mem hown)
        obtain ⟨last, -, htaskTrace⟩ := task_of_chain htrace hchain
        obtain ⟨earlier, later, hlog, hbefore, -⟩ := htaskTrace.cut hown
        -- the task had the session before the step
        have hretrieved := (sourced_of_trace hbefore).dispatched call session completed hstage
          hdispatched
        refine ⟨place, session, rfl, ?_, ?_⟩
        · rw [hlog]
          exact hretrieved.append _
        · rcases hkept with hobtained | hended
          · exact Or.inl (List.mem_filterMap.mpr ⟨_, hown, hobtained⟩)
          · exact Or.inr ⟨moved, hmoved, hended⟩

/-- A task that gave up has left the session cache as it was, with every one of its steps. -/
theorem sessions_eq_of_abandoned
    (htrace : Trace (Possible step) (.initial token chains permits sessions) history state)
    {place : Nat} (habandoned : ∃ moment ∈ history, moment.action = .task place .abandon)
    {moment : Step} (hmem : moment ∈ history) {action : TaskAction}
    (haction : moment.action = .task place action) :
    moment.after.commons.sessions = moment.before.commons.sessions := by
  obtain ⟨last, hlast, hlastAction⟩ := habandoned
  obtain ⟨_, _, hgaveUp, -⟩ := exists_own htrace hlast hlastAction
  obtain ⟨task, moved, hown, -, hmoves⟩ := exists_own htrace hmem haction
  obtain ⟨chain, hchain⟩ := chain_of_own htrace (List.ne_nil_of_mem hown)
  obtain ⟨_, -, htaskTrace⟩ := task_of_chain htrace hchain
  have hnone := (not_keep_of_abandoned htaskTrace ⟨_, hgaveUp, rfl⟩).2
  rcases hmoves.sessions_eq with hsame | ⟨rfl, -⟩
  · exact hsame
  · exact absurd rfl (hnone _ hown)

/-- What is listed was delivered. -/
theorem delivered_of_find?
    (htrace : Trace (Possible step) (.initial token chains permits sessions) history state)
    {key : String} {nodes : List Node} (hfind : state.results.find? key = some nodes) :
    ∃ place, { key, nodes } ∈ deliveredBy place history := by
  obtain ⟨received, hreceived, hresults⟩ := inOrder_of_trace htrace rfl rfl
  rw [hresults] at hfind
  obtain ⟨⟨_, _⟩, hmem, rfl, rfl⟩ := Table.exists_of_find?_foldl_insert hfind
  have hdelivered := List.mem_append_left state.commons.deliveries.queue hmem
  rw [hreceived] at hdelivered
  obtain ⟨⟨place, delivery⟩, hmade, rfl⟩ := List.mem_map.mp hdelivered
  exact ⟨place, mem_deliveries_iff.mp hmade⟩

/-- What is listed under a key comes from one task: it had the session of the key, and the nodes
listed had answered, before the cancellation. -/
theorem listed_of_trace
    (htrace : Trace (Possible step) (.initial token chains permits sessions) history state)
    {key : String} {nodes : List Node} (hfind : state.results.find? key = some nodes) :
    ∃ place chain session, chains[place]? = some chain ∧ session.key = key ∧
      Retrieved (own place history) session ∧
      ∀ node ∈ nodes, node ∈ session.nodes ∧
        ∃ moment ∈ own place history, Confirms chain session node moment := by
  obtain ⟨place, hdelivered⟩ := delivered_of_find? htrace hfind
  have hown : own place history ≠ [] := by
    intro hnil
    simp [deliveredBy, hnil] at hdelivered
  obtain ⟨chain, hchain⟩ := chain_of_own htrace hown
  obtain ⟨task, -, htaskTrace⟩ := task_of_chain htrace hchain
  obtain ⟨-, -, haccounted⟩ := accounted_of_trace htaskTrace
  -- only a task that has ended has delivered
  cases hstage : task.stage with
  | retrieving | probing | probed =>
      simp only [Accounted, hstage] at haccounted
      rw [deliveredBy, haccounted.2.2] at hdelivered
      cases hdelivered
  | ended =>
      simp only [Accounted, hstage] at haccounted
      rcases haccounted with ⟨-, -, hnone⟩ | ⟨session, supporting, hobtained, hnodes, hsole⟩
      · rw [deliveredBy, hnone] at hdelivered
        cases hdelivered
      · rw [deliveredBy, hsole, List.mem_singleton] at hdelivered
        cases hdelivered
        refine ⟨place, chain, session, hchain, rfl, ?_, fun node hnode => ?_⟩
        · exact (sourced_of_trace htaskTrace).obtained session
            (by rw [hobtained]; exact List.mem_singleton_self _)
        · exact confirms_of_verified htaskTrace hobtained (hnodes.mem_iff.mp hnode)

end Checks

/-! ## Cancelled before it begins -/

/-- Nothing has been found out, and nothing is on its way. -/
structure State.Untouched (sessions : SessionCache) (state : State) : Prop where
  cancelled : state.cancelled = true
  tasks : ∀ task ∈ state.tasks, task.stage = .ended ∨
    ∃ call, task.stage = .retrieving call ∧ call.stage = .begun
  queue : state.commons.deliveries.queue = []
  results : state.results = .empty
  sessions_eq : state.commons.sessions = sessions

namespace State.Untouched

variable {sessions : SessionCache} {state next : State} {action : Action}

/-- All that can happen is that a task gives up. -/
theorem after (huntouched : state.Untouched sessions) (hmoves : state.Moves action next) :
    (∃ place, action = .task place .abandon) ∧ next.Untouched sessions := by
  cases hmoves with
  | cancelled hcancelled =>
      rw [huntouched.cancelled] at hcancelled
      cases hcancelled
  | collected hreceive =>
      have hqueue := Channel.queue_receive? hreceive
      rw [huntouched.queue] at hqueue
      cases hqueue
  | @task place task moved commons action htask hmoves =>
      rcases huntouched.tasks task (List.mem_of_getElem? htask) with hended | ⟨call, hcall, hbegun⟩
      · exact absurd hended hmoves.ne_ended
      · cases hmoves with
        -- a call that has not looked would have to look, and is given up instead
        | called hstage hwaits | obtained hstage hwaits | unobtained hstage hwaits =>
            rw [hcall] at hstage
            cases hstage
            simp [huntouched.cancelled, SessionCall.isPending, hbegun] at hwaits
        | crashed hstage hdispatched =>
            rw [hcall] at hstage
            cases hstage
            rw [hbegun] at hdispatched
            cases hdispatched
        | probed hstage | received hstage | concluded hstage | delivered hstage =>
            rw [hcall] at hstage
            cases hstage
        | abandoned hstage hcancelled hpending =>
            refine ⟨⟨place, rfl⟩, huntouched.cancelled, fun other hother => ?_, huntouched.queue,
              huntouched.results, huntouched.sessions_eq⟩
            rcases List.mem_or_eq_of_mem_set hother with hmem | rfl
            · exact huntouched.tasks other hmem
            · exact Or.inl rfl

theorem initial (token : Token) (chains : List Blockchain) (permits : Nat)
    (sessions : SessionCache) :
    State.Untouched sessions
      { State.initial token chains permits sessions with cancelled := true } where
  cancelled := rfl
  tasks := by simp [State.initial, ChainTask.ofChain]
  queue := rfl
  results := rfl
  sessions_eq := rfl

/-- Wherever a check goes on that is cancelled before it begins, nothing is begun. -/
theorem of_trace {start : State} {history : List Step} (hstart : start.Untouched sessions)
    (htrace : Trace (Possible step) start history state) :
    state.Untouched sessions ∧ ∀ moment ∈ history, moment.action.isPrevented = false := by
  induction htrace with
  | start => exact ⟨hstart, by simp⟩
  | step htrace hstep ih =>
      obtain ⟨⟨place, rfl⟩, hnext⟩ := ih.1.after (step_eq_some_iff.mp hstep)
      refine ⟨hnext, fun moment hmem => ?_⟩
      rcases List.mem_append.mp hmem with hearlier | hlast
      · exact ih.2 moment hearlier
      · rw [List.mem_singleton] at hlast
        subst hlast
        rfl

end State.Untouched

/-- A run that is cancelled before it begins comes to its end with nothing found out, asked for or
sent. -/
theorem Run.finish_untouched {σ : Type} {permits : Nat} {sessions : SessionCache}
    (backend : Backend σ) (run : Run σ) (huntouched : run.state.Untouched sessions)
    (hsound : run.state.Sound permits) :
    ∃ last, run.finish backend = { run with state := last } ∧ last.Untouched sessions := by
  fun_induction finish backend run with
  | case1 run next hnext ih =>
      obtain ⟨turn, hturns, htake⟩ := turns_of_next? hnext
      have hcancelled := huntouched.cancelled
      cases hturns with
      | ready hready =>
          obtain ⟨state, hmoves, rfl⟩ := exists_of_act htake
          obtain ⟨⟨place, rfl⟩, hafter⟩ := huntouched.after hmoves
          exact ih hafter (hsound.after hmoves)
      | arrived hbefore | begun hbefore | granted hbefore | cancelled hbefore =>
          rw [hcancelled] at hbefore
          cases hbefore
  | case2 run hnext => exact ⟨run.state, rfl, huntouched⟩

/-! ## A check heeds its cancellation -/

/-- What a check of the chains keeps to, whenever it is cancelled. -/
structure Heeds (chains : List Blockchain) (history : List Step) (state : State) : Prop where
  /-- A key is listed because a task had its session before the cancellation, and the nodes listed
  under it are nodes of this session.  Before the cancellation each of them had answered the
  probe of the chain of this task with the identity of the chain. -/
  listed : ∀ key nodes, state.results.find? key = some nodes →
    ∃ place chain session, chains[place]? = some chain ∧ session.key = key ∧
      Retrieved (own place history) session ∧
      ∀ node ∈ nodes, node ∈ session.nodes ∧
        ∃ moment ∈ own place history, Confirms chain session node moment
  /-- After the cancellation no session is looked for, no node is probed and no answer taken. -/
  prevented : ∀ moment ∈ history, moment.before.cancelled = true →
    moment.action.isPrevented = false
  /-- A task whose retrieval is cut off never changes the session cache. -/
  cut_off : ∀ place, (∃ moment ∈ history, moment.action = .task place .abandon) →
    ∀ moment ∈ history, ∀ action, moment.action = .task place action →
      moment.after.commons.sessions = moment.before.commons.sessions
  /-- The session cache changes only as a task is about to keep a session that it had before the
  cancellation.  The task obtains the session, or it breaks down and ends. -/
  kept : ∀ moment ∈ history,
    moment.after.commons.sessions ≠ moment.before.commons.sessions →
    ∃ place session, moment.action = .task place (.call .keep) ∧
      Retrieved (own place history) session ∧
      (session ∈ obtainedBy place history ∨
        ∃ task, moment.after.tasks[place]? = some task ∧ task.stage = .ended)

/-- **A cancelled check returns what it had found out.**  In every state of every check, whatever
the order of steps and the moment of the cancellation, what is listed was retrieved and answered
before the cancellation, and nothing is begun after it.  A check that is cancelled before it
begins finds out nothing, and asks and sends nothing.  What the running check returns comes from
such a schedule, and one that is cancelled before it begins, and can have its permits, returns at
once, without an event and with the gateway as it was. -/
theorem cancellation_heeded (gateway : Gateway) (application : Application)
    (chains : List Blockchain) :
    (∀ sessions start history state,
        gateway.startCheck application chains sessions = .ok start →
        Trace (Possible step) start history state → Heeds chains history state) ∧
      (∀ sessions start history state,
        gateway.startCheck application chains sessions = .ok start →
        Trace (Possible step) { start with cancelled := true } history state →
        state.results = .empty ∧ state.commons.sessions = sessions ∧
          ∀ moment ∈ history, moment.action.isPrevented = false) ∧
      ∀ {σ : Type} (backend : Backend σ) (state : ChainGateway.State σ),
        (∀ cancelAfter? report,
          gateway.check backend state application chains cancelAfter? = .ok report →
          ∃ start history last,
            gateway.startCheck application chains state.sessions = .ok start ∧
            Trace (Possible step) start history last ∧ last.isOver = true ∧
            report.supporting = last.results ∧
            report.state.sessions = last.commons.sessions) ∧
        (max 1 gateway.maxInFlight ≤ permitLimit →
          gateway.check backend state application chains (some 0) =
            .ok { supporting := .empty, state, events := [], peak := 0 }) := by
  refine ⟨fun sessions start history state hstart htrace => ?_,
    fun sessions start history state hstart htrace => ?_,
    fun {σ} backend state => ⟨fun cancelAfter? report hcheck => ?_, fun hlimit => ?_⟩⟩
  · obtain ⟨-, rfl⟩ := Gateway.startCheck_eq_ok_iff.mp hstart
    refine ⟨fun _ _ => listed_of_trace htrace, fun moment hmem hcancelled => ?_,
      fun _ habandoned _ hmem _ => sessions_eq_of_abandoned htrace habandoned hmem,
      fun _ => retrieved_of_sessions_ne htrace⟩
    refine eq_false_of_ne_true fun hprevented => ?_
    rw [(step_eq_some_iff.mp (htrace.steps_of_mem hmem)).uncancelled hprevented] at hcancelled
    cases hcancelled
  · obtain ⟨-, rfl⟩ := Gateway.startCheck_eq_ok_iff.mp hstart
    obtain ⟨huntouched, hprevented⟩ :=
      State.Untouched.of_trace (State.Untouched.initial _ chains _ sessions) htrace
    exact ⟨huntouched.results, huntouched.sessions_eq, hprevented⟩
  · obtain ⟨start, history, last, hstart, htrace, hover, -, hsupporting, hsessions, -⟩ :=
      trace_of_check hcheck
    exact ⟨start, history, last, hstart, htrace, hover, hsupporting, hsessions⟩
  · -- a run that starts out cancelled does nothing but give up
    have hstart : gateway.startCheck application chains state.sessions = .ok _ :=
      Gateway.startCheck_eq_ok_iff.mpr ⟨hlimit, rfl⟩
    have huntouched := State.Untouched.initial (.ofApplication application gateway.plan) chains
      (max 1 gateway.maxInFlight) state.sessions
    have hsound := State.sound_initial (.ofApplication application gateway.plan) chains
      (max 1 gateway.maxInFlight) state.sessions
    obtain ⟨last, hfinish, hlast⟩ := Run.finish_untouched backend (.ofStart state _ (some 0))
      huntouched (hsound.after (.cancelled rfl))
    refine map_eq_ok_iff.mpr ⟨_, hstart, ?_⟩
    dsimp only
    rw [hfinish]
    simp only [hlast.results, hlast.sessions_eq, Run.ofStart]

/-! ## Three tasks at different points -/

def lateSession : Session := { key := "late", nodes := [soleNode] }

def interruptedChains : List Blockchain := [mainChain, { id := "0001" }, { id := "0002" }]

/-- When the check is cancelled, the node of the first task has answered, the session of the
second one is being dispatched, and that of the third one has just been returned. -/
def interrupted : List Action :=
  [.task 0 (.call (.look 0)), .task 0 (.call (.answer (.ok soleSession) 0)), .task 0 (.call .keep),
    .task 0 (.probe 0 .grant), .task 0 (.probe 0 .launch),
    .task 0 (.probe 0 (.answered (.ok { response := "1" }))), .task 1 (.call (.look 5)),
    .task 2 (.call (.look 5)), .task 2 (.call (.answer (.ok lateSession) 7)), .cancel,
    .task 1 .abandon, .task 2 (.call .keep), .task 2 (.probe 0 .drop), .task 0 (.probe 0 .report),
    .task 0 .receive, .task 0 .conclude, .task 0 .deliver, .task 2 (.probe 0 .report),
    .task 2 .receive, .task 2 .conclude, .task 2 .deliver, .collect, .collect]

def interruptedStart : State :=
  .initial (.ofApplication default .freemium) interruptedChains 1 {}

theorem startCheck_interrupted :
    Gateway.startCheck { maxInFlight := 1 } default interruptedChains {} = .ok interruptedStart :=
  Gateway.startCheck_eq_ok_iff.mpr ⟨by decide, rfl⟩

/-- Services with one session, whose node serves the first chain. -/
def agreeable : Backend Unit where
  dispatch _ _ _ := ({ outcome := .ok soleSession }, ())
  relay _ _ := ({ outcome := .ok { response := "1" } }, ())

/-- The general statement at this run: the node that had answered is listed, and the session that
was returned in time is listed without nodes.  A check of the same chains that is cancelled before
it begins finds nothing, step by step as well as when it is run. -/
theorem cancellation_heeded_interrupted :
    (∃ history state, Trace (Possible step) interruptedStart history state ∧
        state.isOver = true ∧ state.cancelled = true ∧
        state.results.find? "session" = some [soleNode] ∧ state.results.find? "late" = some [] ∧
        Heeds interruptedChains history state) ∧
      (∃ history state,
        Trace (Possible step) { interruptedStart with cancelled := true } history state ∧
        state.isOver = true ∧ state.results = .empty) ∧
      ∃ history last, Trace (Possible step) interruptedStart history last ∧ last.isOver = true ∧
        last.results = .empty := by
  obtain ⟨hheeds, hbefore, hchecks⟩ :=
    cancellation_heeded { maxInFlight := 1 } default interruptedChains
  refine ⟨?_, ?_, ?_⟩
  · have hends : (takeAll step interruptedStart interrupted).map (fun taken =>
        (taken.2.isOver, taken.2.cancelled, taken.2.results.find? "session",
          taken.2.results.find? "late")) = some (true, true, some [soleNode], some []) := by
      decide
    obtain ⟨⟨history, state⟩, htaken, hends⟩ := Option.map_eq_some_iff.mp hends
    simp only [Prod.mk.injEq] at hends
    obtain ⟨hover, hcancelled, hsession, hlate⟩ := hends
    have htrace := Trace.of_takeAll htaken
    exact ⟨history, state, htrace, hover, hcancelled, hsession, hlate,
      hheeds _ _ _ _ startCheck_interrupted htrace⟩
  · have hends : (takeAll step { interruptedStart with cancelled := true }
        ((List.range 3).map (.task · .abandon))).map (fun taken => taken.2.isOver) =
          some true := by
      decide
    obtain ⟨⟨history, state⟩, htaken, hover⟩ := Option.map_eq_some_iff.mp hends
    have htrace := Trace.of_takeAll htaken
    exact ⟨history, state, htrace, hover, (hbefore _ _ _ _ startCheck_interrupted htrace).1⟩
  · obtain ⟨hfollows, hreturned⟩ :=
      hchecks agreeable { sessions := {}, affinity := {}, services := (), now := 0 }
    obtain ⟨start, history, last, hstart, htrace, hover, hsupporting, -⟩ :=
      hfollows _ _ (hreturned (by decide))
    cases eq_of_eq_ok startCheck_interrupted hstart
    exact ⟨history, last, htrace, hover, hsupporting.symm⟩

end ChainGateway.Check
