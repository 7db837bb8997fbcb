import ChainGateway.Check.Run
import ChainGateway.Proofs.Check.Sound
import ChainGateway.Proofs.Except

/-!
# What the steps of a check say about a task

Of the steps of a check those of one task are a trace of that task alone, whatever the others
did to what they share (`trace_own`).  So what is to be known about a task is said of its own steps:
which session it obtained, which nodes its probes verified and what it delivered.

Once a task has ended its steps tell exactly one of two stories (`Accounted`): it never obtained
a session and delivered nothing, or it obtained one and delivered, once and under the key of that
session, the nodes that its probes verified.

## Strategy

While the probes are at work, each verified node is among the nodes collected, in a report on its
way, or about to be reported.  `Probing.count` counts a node wherever it may be, and no step but
a verification changes the count.  The same count, taken with what the probes that have not been
judged are expected to report, serves to say what a task delivers when nothing is dropped.
-/

namespace ChainGateway.Check

/-- A step of a check, with the state before it and the state after it. -/
abbrev Step := Moment State Action

/-- What happens to a task, and whether the check was cancelled before it. -/
structure TaskEvent where
  cancelled : Bool
  action : TaskAction

/-- A step of a task, with the task before it and the task after it. -/
abbrev TaskStep := Moment ChainTask TaskEvent

/-- The steps of a task, whatever it meets of what it shares with others. -/
def ChainTask.Evolves (task : ChainTask) (event : TaskEvent) (next : ChainTask) : Prop :=
  ∃ commons after, task.Moves event.cancelled commons event.action next after

/-! ## The steps of one task -/

/-- The step of the task at a place, if it is one. -/
def own? (place : Nat) (moment : Step) : Option TaskStep :=
  match moment.action with
  | .task other action =>
      if other = place then
        match moment.before.tasks[place]?, moment.after.tasks[place]? with
        | some before, some after =>
            some ⟨before, { cancelled := moment.before.cancelled, action }, after⟩
        | _, _ => none
      else none
  | .cancel | .collect => none

def own (place : Nat) (history : List Step) : List TaskStep := history.filterMap (own? place)

theorem own_append (place : Nat) (history : List Step) (moment : Step) :
    own place (history ++ [moment]) = own place history ++ (own? place moment).toList := by
  rw [own, List.filterMap_append, ← own]
  cases hown : own? place moment <;> simp [hown]

theorem own?_self {state : State} {place : Nat} {task : ChainTask}
    (htask : state.tasks[place]? = some task) (action : TaskAction) (moved : ChainTask)
    (commons : TaskCommons) :
    own? place ⟨state, .task place action,
        { state with tasks := state.tasks.set place moved, commons }⟩ =
      some ⟨task, { cancelled := state.cancelled, action }, moved⟩ := by
  have hmoved : (state.tasks.set place moved)[place]? = some moved :=
    List.getElem?_set_self (List.getElem?_eq_some_iff.mp htask).1
  simp only [own?, if_true, htask, hmoved]

theorem own?_eq_some {place : Nat} {moment : Step} {step : TaskStep}
    (hown : own? place moment = some step) :
    moment.action = .task place step.action.action ∧
      moment.before.tasks[place]? = some step.before ∧
      step.action.cancelled = moment.before.cancelled := by
  unfold own? at hown
  split at hown
  · next other action haction =>
      split at hown
      · next hplace =>
          split at hown <;> cases hown
          exact ⟨by rw [haction, hplace], by assumption, rfl⟩
      · cases hown
  · cases hown
  · cases hown

/-- A step of the check leaves a task alone or is a step of it. -/
theorem State.Moves.own_cases {state next : State} {action : Action} {place : Nat}
    {task : ChainTask} (hmoves : state.Moves action next)
    (htask : state.tasks[place]? = some task) :
    next.tasks[place]? = some task ∧ own? place ⟨state, action, next⟩ = none ∨
      ∃ event moved, next.tasks[place]? = some moved ∧ task.Evolves event moved ∧
        own? place ⟨state, action, next⟩ = some ⟨task, event, moved⟩ := by
  cases hmoves with
  | cancelled hcancelled => exact Or.inl ⟨htask, rfl⟩
  | collected hreceive => exact Or.inl ⟨htask, rfl⟩
  | @task other stepping moved commons action hstepping hmoves =>
      rcases Decidable.em (other = place) with rfl | hne
      · rw [htask] at hstepping
        cases hstepping
        refine Or.inr ⟨_, moved, ?_, ⟨_, _, hmoves⟩, own?_self htask action moved commons⟩
        exact List.getElem?_set_self (List.getElem?_eq_some_iff.mp htask).1
      · refine Or.inl ⟨?_, by simp [own?, hne]⟩
        simp only
        rw [List.getElem?_set_ne hne]
        exact htask

theorem length_tasks {start state : State} {history : List Step}
    (htrace : Trace (Possible step) start history state) :
    state.tasks.length = start.tasks.length := by
  refine htrace.invariant (P := fun state => state.tasks.length = start.tasks.length) rfl
    fun hlength hstep => ?_
  cases step_eq_some_iff.mp hstep with
  | cancelled hcancelled => exact hlength
  | task htask hmoves => simpa using hlength
  | collected hreceive => exact hlength

theorem lt_of_own_ne_nil {start state : State} {history : List Step} {place : Nat}
    (htrace : Trace (Possible step) start history state) (hown : own place history ≠ []) :
    place < start.tasks.length := by
  obtain ⟨step, hstep⟩ := List.exists_mem_of_ne_nil _ hown
  obtain ⟨moment, hmem, hsome⟩ := List.mem_filterMap.mp hstep
  obtain ⟨earlier, -, -, hbefore, -⟩ := htrace.cut hmem
  rw [← length_tasks hbefore]
  exact (List.getElem?_eq_some_iff.mp (own?_eq_some hsome).2.1).1

/-- Before a check is cancelled, none of its steps comes after a cancellation. -/
theorem cancelled_eq_false {start state : State} {history : List Step}
    (htrace : Trace (Possible step) start history state) (hcancelled : state.cancelled = false) :
    ∀ moment ∈ history, moment.before.cancelled = false := by
  induction htrace with
  | start => simp
  | @step history state next action htrace hstep ih =>
      have hbefore : state.cancelled = false :=
        (step_eq_some_iff.mp hstep).cancelled_eq_false hcancelled
      intro moment hmem
      rcases List.mem_append.mp hmem with hearlier | hlast
      · exact ih hbefore moment hearlier
      · rw [List.mem_singleton] at hlast
        subst hlast
        exact hbefore

theorem own_cancelled_eq_false {start state : State} {history : List Step} {place : Nat}
    (htrace : Trace (Possible step) start history state) (hcancelled : state.cancelled = false) :
    ∀ moment ∈ own place history, moment.action.cancelled = false := by
  intro moment hmem
  obtain ⟨step, hstep, hown⟩ := List.mem_filterMap.mp hmem
  rw [(own?_eq_some hown).2.2]
  exact cancelled_eq_false htrace hcancelled step hstep

/-- The steps of one task are a trace of that task alone. -/
theorem trace_own {start state : State} {history : List Step} {place : Nat} {first : ChainTask}
    (htrace : Trace (Possible step) start history state)
    (hfirst : start.tasks[place]? = some first) :
    ∃ task, state.tasks[place]? = some task ∧
      Trace ChainTask.Evolves first (own place history) task := by
  induction htrace with
  | start => exact ⟨first, hfirst, .start⟩
  | @step history state next action htrace hstep ih =>
      obtain ⟨task, htask, hown⟩ := ih
      rw [own_append]
      rcases (step_eq_some_iff.mp hstep).own_cases htask with
        ⟨hsame, hnone⟩ | ⟨event, moved, hmoved, hevolves, hsome⟩
      · -- whatever else has changed, the task is where it was
        rw [hnone]
        exact ⟨task, hsame, by simpa using hown⟩
      · rw [hsome]
        exact ⟨moved, hmoved, hown.step hevolves⟩

namespace ChainTask.Evolves

variable {task next : ChainTask} {event : TaskEvent}

theorem sound (hevolves : task.Evolves event next) (hsound : task.Sound) : next.Sound := by
  obtain ⟨commons, after, hmoves⟩ := hevolves
  exact hmoves.sound hsound

theorem chain_eq (hevolves : task.Evolves event next) : next.chain = task.chain := by
  obtain ⟨cancelled, action⟩ := event
  obtain ⟨commons, after, hmoves⟩ := hevolves
  cases hmoves <;> rfl

theorem token_eq (hevolves : task.Evolves event next) : next.token = task.token := by
  obtain ⟨cancelled, action⟩ := event
  obtain ⟨commons, after, hmoves⟩ := hevolves
  cases hmoves <;> rfl

end ChainTask.Evolves

/-! ## Reading the steps of a task -/

/-- The session that the task obtained with a step. -/
def obtained? (moment : TaskStep) : Option Session :=
  match moment.before.stage, moment.after.stage with
  | .retrieving _, .probing probing => some probing.session
  | _, _ => none

/-- The node that a probe of the task verified with a step. -/
def verified? (moment : TaskStep) : Option Node :=
  match moment.before.stage, moment.action.action with
  | .probing probing, .probe place (.answered outcome) =>
      if verifies moment.before.chain outcome then probing.probes[place]?.map Probe.node else none
  | _, _ => none

/-- What the task delivered with a step. -/
def delivered? (moment : TaskStep) : Option Delivery :=
  match moment.before.stage, moment.action.action with
  | .probed session supporting, .deliver => some { key := session.key, nodes := supporting }
  | _, _ => none

/-- The sessions that the task at a place obtained. -/
def obtainedBy (place : Nat) (history : List Step) : List Session :=
  (own place history).filterMap obtained?

/-- The nodes that the probes of the task at a place verified. -/
def verifiedBy (place : Nat) (history : List Step) : List Node :=
  (own place history).filterMap verified?

/-- What the task at a place delivered. -/
def deliveredBy (place : Nat) (history : List Step) : List Delivery :=
  (own place history).filterMap delivered?

/-! ## Where a node may be -/

/-- What a probe is about to report, if those that have not been judged report what is
expected. -/
def Probe.contents (expected : Node → Option Node) (probe : Probe) : List Node :=
  match probe.stage with
  | .waiting | .relaying => (expected probe.node).toList
  | .judged supporting? => supporting?.toList
  | .ended => []

/-- How often a node is among those collected, reported or about to be reported. -/
def Probing.count (expected : Node → Option Node) (probing : Probing) (node : Node) : Nat :=
  probing.supporting.count node + (probing.reports.queue.flatMap Option.toList).count node +
    total (fun probe => (probe.contents expected).count node) probing.probes

/-- What an action of a probe was expected to lead to. -/
def ProbeAction.settles (expected : Node → Option Node) (node : Node) : ProbeAction → List Node
  | .answered _ | .drop => (expected node).toList
  | .grant | .launch | .report => []

/-- What an action of a probe has verified. -/
def ProbeAction.verifies (chain : Blockchain) (node : Node) : ProbeAction → List Node
  | .answered outcome => if Check.verifies chain outcome then [node] else []
  | .grant | .launch | .drop | .report => []

/-- What is verified takes the place of what was expected, and everything else only moves. -/
theorem Probe.Moves.contents {chain : Blockchain} {cancelled : Bool} {probe next : Probe}
    {commons after : ProbeCommons} {action : ProbeAction}
    (hmoves : probe.Moves chain cancelled commons action next after)
    (expected : Node → Option Node) (node : Node) :
    (next.contents expected).count node + (after.reports.queue.flatMap Option.toList).count node +
        (action.settles expected probe.node).count node =
      (probe.contents expected).count node +
        (commons.reports.queue.flatMap Option.toList).count node +
        (action.verifies chain probe.node).count node := by
  cases hmoves with
  | granted hstage hpermit hfree =>
      simp [Probe.contents, Probe.node, hstage, ProbeAction.settles, ProbeAction.verifies]
  | launched hstage hpermit hcancelled =>
      simp [Probe.contents, Probe.node, hstage, ProbeAction.settles, ProbeAction.verifies]
  -- the verdict takes the place of what was expected of the probe
  | answered outcome hstage hcancelled =>
      simp only [Probe.contents, hstage, ProbeAction.settles, ProbeAction.verifies]
      split
      · simp only [Option.toList_some]
        omega
      · simp only [Option.toList_none]
        omega
  -- what was expected is settled, and nothing is reported for it
  | dropped hstage hcancelled =>
      simp only [ProbeAction.settles, ProbeAction.verifies]
      rcases hstage with hstage | hstage
      · simp only [Probe.contents, hstage, Option.toList_none]
        omega
      · simp only [Probe.contents, hstage, Option.toList_none]
        omega
  -- what the probe was about to report is the last report in the queue now
  | @reported supporting? reports hstage hsend =>
      obtain ⟨-, hreports⟩ := Option.ite_none_right_eq_some.mp hsend
      cases hreports
      simp only [Probe.contents, hstage, ProbeAction.settles, ProbeAction.verifies,
        List.flatMap_append, List.count_append, List.flatMap_singleton, List.count_nil]
      omega

namespace Probing

variable {chain : Blockchain} {cancelled : Bool} {probing next : Probing} {free after : Nat}
  {place : Nat} {action : ProbeAction}

theorem count_ofSession (token : Token) (chain : Blockchain) (session : Session)
    (expected : Node → Option Node) (node : Node) :
    (ofSession token chain session).count expected node =
      (session.nodes.filterMap expected).count node := by
  simp only [count, ofSession, Channel.ofSenders, List.flatMap_nil, List.count_nil, Nat.zero_add,
    total_map, Probe.contents, Probe.node, probeRelay]
  induction session.nodes with
  | nil => rfl
  | cons first rest ih =>
      rw [total_cons, ih, List.filterMap_cons]
      cases expected first <;> simp [List.count_cons, Nat.add_comm]

theorem count_step (hstep : probing.step chain cancelled free place action = some (next, after)) :
    ∃ probe, probing.probes[place]? = some probe ∧ next.session = probing.session ∧
      ∀ expected node,
        next.count expected node + (action.settles expected probe.node).count node =
          probing.count expected node + (action.verifies chain probe.node).count node := by
  obtain ⟨probe, moved, reports, hprobe, hmoves, rfl⟩ := step_eq_some_iff.mp hstep
  refine ⟨probe, hprobe, rfl, fun expected node => ?_⟩
  have hcontents := hmoves.contents expected node
  have htotal := total_set (fun probe => (probe.contents expected).count node) hprobe moved
  simp only [count] at hcontents htotal ⊢
  omega

theorem count_receive? (hreceive : probing.receive? = some next) :
    next.session = probing.session ∧
      ∀ expected node, next.count expected node = probing.count expected node := by
  obtain ⟨⟨supporting?, reports⟩, hmessage, rfl⟩ := Option.map_eq_some_iff.mp hreceive
  refine ⟨rfl, fun expected node => ?_⟩
  simp only [count, Channel.queue_receive? hmessage, List.flatMap_cons, List.count_append]
  omega

/-- When all reports have been taken in, a node is where it was collected and nowhere else. -/
theorem Sound.count_of_isClosed (hsound : probing.Sound)
    (hclosed : probing.reports.isClosed = true) (expected : Node → Option Node) (node : Node) :
    probing.count expected node = probing.supporting.count node := by
  have hnone : total (fun probe => (probe.contents expected).count node) probing.probes = 0 :=
    total_eq_zero_iff.mpr fun probe hmem => by
      simp [Probe.contents, (hsound.of_isClosed hclosed probe hmem).1]
  simp [count, hnone, (Channel.isClosed_iff.mp hclosed).2]

end Probing

/-! ## The account of a task -/

/-- What the steps of a task say at each of its stages. -/
def Accounted (log : List TaskStep) (task : ChainTask) : Prop :=
  match task.stage with
  | .retrieving _ =>
      log.filterMap obtained? = [] ∧ log.filterMap verified? = [] ∧ log.filterMap delivered? = []
  | .probing probing =>
      log.filterMap obtained? = [probing.session] ∧
        (∀ node, probing.count (fun _ => none) node = (log.filterMap verified?).count node) ∧
        log.filterMap delivered? = []
  | .probed session supporting =>
      log.filterMap obtained? = [session] ∧ supporting.Perm (log.filterMap verified?) ∧
        log.filterMap delivered? = []
  | .ended =>
      log.filterMap obtained? = [] ∧ log.filterMap verified? = [] ∧
          log.filterMap delivered? = [] ∨
        ∃ session supporting, log.filterMap obtained? = [session] ∧
          supporting.Perm (log.filterMap verified?) ∧
          log.filterMap delivered? = [{ key := session.key, nodes := supporting }]

theorem filterMap_append_singleton {α β : Type} (read : α → Option β) (items : List α) (item : α) :
    (items ++ [item]).filterMap read = items.filterMap read ++ (read item).toList := by
  rw [List.filterMap_append]
  cases hread : read item <;> simp [hread]

/-- A task that has not concluded delivers nothing with its next step. -/
theorem undelivered_append {log : List TaskStep} {moment : TaskStep}
    (hlog : log.filterMap delivered? = [])
    (hstage : ∀ session supporting, moment.before.stage ≠ .probed session supporting) :
    (log ++ [moment]).filterMap delivered? = [] := by
  have hnone : delivered? moment = none := by
    unfold delivered?
    split
    · next hprobed _ => exact absurd hprobed (hstage _ _)
    · rfl
  rw [filterMap_append_singleton, hlog, hnone]
  rfl

theorem verified?_of_probe {task next : ChainTask} {cancelled : Bool} {probing : Probing}
    {place : Nat} {probe : Probe} {action : ProbeAction} (hstage : task.stage = .probing probing)
    (hprobe : probing.probes[place]? = some probe) :
    (verified? ⟨task, { cancelled, action := .probe place action }, next⟩).toList =
      action.verifies task.chain probe.node := by
  cases action with
  | answered outcome =>
      simp only [verified?, hstage, hprobe, ProbeAction.verifies]
      split <;> rfl
  | grant | launch | drop | report => simp [verified?, hstage, ProbeAction.verifies]

theorem Accounted.step {log : List TaskStep} {task next : ChainTask} {event : TaskEvent}
    (haccounted : Accounted log task) (hsound : task.Sound)
    (hevolves : task.Evolves event next) : Accounted (log ++ [⟨task, event, next⟩]) next := by
  unfold Accounted at haccounted
  unfold ChainTask.Sound at hsound
  obtain ⟨cancelled, action⟩ := event
  obtain ⟨commons, after, hmoves⟩ := hevolves
  cases hmoves with
  | called hstage hwaits hcall hreturned hfailed =>
      simp only [hstage] at haccounted
      simpa [Accounted, ChainTask.goTo, filterMap_append_singleton, obtained?, verified?,
        delivered?, hstage] using haccounted
  | @obtained call moved action sessions session hstage hwaits hcall hreturned =>
      simp only [hstage] at haccounted
      obtain ⟨hobtained, hverified, hdelivered⟩ := haccounted
      refine ⟨?_, fun node => ?_, undelivered_append hdelivered (by simp [hstage])⟩
      · rw [filterMap_append_singleton, hobtained]
        simp [obtained?, hstage, ChainTask.startProbes, ChainTask.goTo, Probing.ofSession]
      · have hnone : session.nodes.filterMap (fun _ => (none : Option Node)) = [] :=
          List.filterMap_eq_nil_iff.mpr fun _ _ => rfl
        rw [filterMap_append_singleton, hverified, Probing.count_ofSession, hnone]
        simp [verified?, hstage]
  | unobtained hstage | crashed hstage | abandoned hstage =>
      simp only [hstage] at haccounted
      exact Or.inl (by simpa [ChainTask.goTo, filterMap_append_singleton, obtained?, verified?,
        delivered?, hstage] using haccounted)
  | @probed probing moved place free action hstage hprobe =>
      simp only [hstage] at haccounted
      obtain ⟨hobtained, hverified, hdelivered⟩ := haccounted
      obtain ⟨probe, hplace, hsession, hcount⟩ := Probing.count_step hprobe
      refine ⟨?_, fun node => ?_, undelivered_append hdelivered (by simp [hstage])⟩
      · rw [filterMap_append_singleton, hobtained]
        simp [obtained?, hstage, hsession]
      · -- as nothing is expected, only a verification adds to the count
        rw [filterMap_append_singleton, List.count_append, verified?_of_probe hstage hplace,
          ← hverified node]
        have hnone : action.settles (fun _ => none) probe.node = [] := by
          cases action <;> rfl
        simpa [hnone] using hcount (fun _ => none) node
  | received hstage hreceive =>
      simp only [hstage] at haccounted
      obtain ⟨hobtained, hverified, hdelivered⟩ := haccounted
      obtain ⟨hsession, hcount⟩ := Probing.count_receive? hreceive
      refine ⟨?_, fun node => ?_, undelivered_append hdelivered (by simp [hstage])⟩
      · rw [filterMap_append_singleton, hobtained]
        simp [obtained?, hstage, hsession]
      · rw [filterMap_append_singleton, List.count_append, hcount, hverified]
        simp [verified?, hstage]
  | concluded hstage hclosed =>
      simp only [hstage] at haccounted hsound
      obtain ⟨hobtained, hverified, hdelivered⟩ := haccounted
      refine ⟨?_, List.perm_iff_count.mpr fun node => ?_,
        undelivered_append hdelivered (by simp [hstage])⟩
      · rw [filterMap_append_singleton, hobtained]
        simp [obtained?, hstage]
      · -- all reports are in, so whatever counts was collected
        rw [filterMap_append_singleton, List.count_append, ← hverified,
          hsound.count_of_isClosed hclosed]
        simp [verified?, hstage]
  | @delivered session supporting deliveries hstage hsend =>
      simp only [hstage] at haccounted
      obtain ⟨hobtained, hverified, hdelivered⟩ := haccounted
      refine Or.inr ⟨session, supporting, ?_, ?_, ?_⟩
      · rw [filterMap_append_singleton, hobtained]
        simp [obtained?, hstage]
      · rw [filterMap_append_singleton]
        simpa [verified?, hstage] using hverified
      · rw [filterMap_append_singleton, hdelivered]
        simp [delivered?, hstage]

theorem accounted_of_trace {token : Token} {chain : Blockchain} {log : List TaskStep}
    {task : ChainTask}
    (htrace : Trace ChainTask.Evolves (ChainTask.ofChain token chain) log task) :
    task.chain = chain ∧ task.Sound ∧ Accounted log task := by
  induction htrace with
  | start => exact ⟨rfl, by simp [ChainTask.Sound, ChainTask.ofChain], rfl, rfl, rfl⟩
  | step htrace hevolves ih =>
      obtain ⟨hchain, hsound, haccounted⟩ := ih
      exact ⟨hevolves.chain_eq.trans hchain, hevolves.sound hsound,
        haccounted.step hsound hevolves⟩

theorem token_of_trace {token : Token} {chain : Blockchain} {log : List TaskStep}
    {task : ChainTask}
    (htrace : Trace ChainTask.Evolves (ChainTask.ofChain token chain) log task) :
    task.token = token :=
  htrace.invariant (P := fun task => task.token = token) rfl fun htoken hevolves =>
    hevolves.token_eq.trans htoken

/-! ## The tasks of a check -/

section Checks

variable {token : Token} {chains : List Blockchain} {permits : Nat} {sessions : SessionCache}
  {history : List Step} {state : State}

theorem sound_of_check
    (htrace : Trace (Possible step) (.initial token chains permits sessions) history state) :
    state.Sound permits :=
  State.Sound.of_trace (State.sound_initial token chains permits sessions) htrace

/-- Each chain has its task, which starts as the chain says. -/
theorem task_of_chain
    (htrace : Trace (Possible step) (.initial token chains permits sessions) history state)
    {place : Nat} {chain : Blockchain} (hchain : chains[place]? = some chain) :
    ∃ task, state.tasks[place]? = some task ∧
      Trace ChainTask.Evolves (.ofChain token chain) (own place history) task := by
  refine trace_own htrace ?_
  simp [State.initial, hchain]

theorem chain_of_own
    (htrace : Trace (Possible step) (.initial token chains permits sessions) history state)
    {place : Nat} (hown : own place history ≠ []) : ∃ chain, chains[place]? = some chain := by
  have hless := lt_of_own_ne_nil htrace hown
  simp only [State.initial, List.length_map] at hless
  exact ⟨_, List.getElem?_eq_getElem hless⟩

end Checks

end ChainGateway.Check
