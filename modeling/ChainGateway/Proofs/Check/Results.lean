import ChainGateway.Proofs.Check.History
import ChainGateway.Proofs.Table

/-!
# What a check returns

The results hold, under each key, what was delivered under it last (`results_of_isOver`).  Every
task that obtained a session delivers once, under the key of that session, the nodes its probes
verified; but a delivery takes the place of an earlier one under the same key.  So a node
that was verified is among the results exactly when the last task to deliver under the key
verified it as well (`last_delivery_decides`).

Two tasks have one key when the list names a chain twice.  If the check is cancelled between the
answers to the two probes of a node, the second probe is dropped and the second delivery removes
the node that the first one listed (`verified_node_lost`).

## Strategy

Deliveries are received in the order in which they were made, so what has been received and what is
on its way are together what was delivered (`delivered_in_order`).
-/

namespace ChainGateway.Check

/-! ## Deliveries -/

/-- What was delivered with a step, and by which task. -/
def delivery? (moment : Step) : Option (Nat × Delivery) :=
  match moment.action with
  | .task place _ => ((own? place moment).bind delivered?).map fun delivery => (place, delivery)
  | .cancel | .collect => none

/-- What was delivered, in order. -/
def deliveries (history : List Step) : List (Nat × Delivery) := history.filterMap delivery?

theorem mem_deliveries_iff {history : List Step} {place : Nat} {delivery : Delivery} :
    (place, delivery) ∈ deliveries history ↔
      delivery ∈ deliveredBy place history := by
  simp only [deliveries, deliveredBy, own, List.mem_filterMap]
  constructor
  · rintro ⟨moment, hmem, hdelivery⟩
    unfold delivery? at hdelivery
    split at hdelivery
    · obtain ⟨delivered, hdelivered, heq⟩ := Option.map_eq_some_iff.mp hdelivery
      cases heq
      obtain ⟨step, hown, hstep⟩ := Option.bind_eq_some_iff.mp hdelivered
      exact ⟨step, ⟨moment, hmem, hown⟩, hstep⟩
    · cases hdelivery
    · cases hdelivery
  · rintro ⟨step, ⟨moment, hmem, hown⟩, hstep⟩
    exact ⟨moment, hmem, by simp [delivery?, (own?_eq_some hown).1, hown, hstep]⟩

/-- A task adds to what is on its way what it delivers, and nothing else. -/
theorem ChainTask.Moves.queue {cancelled : Bool} {task next : ChainTask}
    {commons after : TaskCommons} {action : TaskAction}
    (hmoves : task.Moves cancelled commons action next after) :
    after.deliveries.queue = commons.deliveries.queue ++
      (delivered? ⟨task, { cancelled, action }, next⟩).toList := by
  cases hmoves with
  | delivered hstage hsend =>
      obtain ⟨-, hdeliveries⟩ := Option.ite_none_right_eq_some.mp hsend
      cases hdeliveries
      simp [delivered?, hstage]
  | called hstage | obtained hstage | probed hstage | received hstage | concluded hstage =>
      simp [delivered?, hstage]
  | unobtained hstage | crashed hstage | abandoned hstage =>
      simp [delivered?, hstage, Channel.leave]

/-- The results of deliveries that were received one after another. -/
def collected (received : List Delivery) : Table String (List Node) :=
  received.foldl (fun table delivery => table.insert delivery.key delivery.nodes) .empty

/-- What was received and what is on its way are, in this order, what was delivered. -/
def InOrder (history : List Step) (state : State) : Prop :=
  ∃ received, received ++ state.commons.deliveries.queue = (deliveries history).map Prod.snd ∧
    state.results = collected received

theorem InOrder.step {history : List Step} {state next : State} {action : Action}
    (horder : InOrder history state) (hmoves : state.Moves action next) :
    InOrder (history ++ [⟨state, action, next⟩]) next := by
  obtain ⟨received, hdelivered, hresults⟩ := horder
  unfold InOrder deliveries at *
  rw [filterMap_append_singleton, List.map_append, ← hdelivered]
  cases hmoves with
  | cancelled hcancelled => exact ⟨received, by simp [delivery?], hresults⟩
  | @task place task moved commons action htask hmoves =>
      -- what the task delivers joins the queue at its end
      refine ⟨received, ?_, hresults⟩
      have hqueue := hmoves.queue
      simp only [delivery?, own?_self htask action moved commons, Option.bind_some, hqueue]
      cases delivered? ⟨task, { cancelled := state.cancelled, action }, moved⟩ <;> simp
  | @collected delivery after hreceive =>
      -- the head of the queue goes over to what was received
      refine ⟨received ++ [delivery], ?_, ?_⟩
      · simp [delivery?, Channel.queue_receive? hreceive]
      · simp [hresults, collected]

variable {start state : State} {history : List Step}

theorem inOrder_of_trace (htrace : Trace (Possible step) start history state)
    (hresults : start.results = .empty) (hqueue : start.commons.deliveries.queue = []) :
    InOrder history state := by
  induction htrace with
  | start => exact ⟨[], by rw [hqueue]; rfl, hresults⟩
  | step htrace hstep ih => exact ih.step (step_eq_some_iff.mp hstep)

/-! ## The last delivery under a key -/

/-- Of the deliveries under a key, the one that came last, and the task that made it. -/
def LastUnder (key : String) (history : List Step) (place : Nat) (delivery : Delivery) : Prop :=
  ∃ earlier later, deliveries history = earlier ++ (place, delivery) :: later ∧
    delivery.key = key ∧ ∀ other ∈ later, other.2.key ≠ key

theorem lastUnder_iff {key : String} {place : Nat} {delivery : Delivery} :
    LastUnder key history place delivery ↔
      Table.LastWith (fun item => item.2.key) (deliveries history) key (place, delivery) :=
  Iff.rfl

theorem LastUnder.mem {key : String} {place : Nat} {delivery : Delivery}
    (hlast : LastUnder key history place delivery) : (place, delivery) ∈ deliveries history :=
  (lastUnder_iff.mp hlast).mem

theorem LastUnder.key_eq {key : String} {place : Nat} {delivery : Delivery}
    (hlast : LastUnder key history place delivery) : delivery.key = key :=
  (lastUnder_iff.mp hlast).key_eq

/-- Where anything was delivered under a key, some delivery was the last one. -/
theorem exists_lastUnder {place : Nat} {delivery : Delivery}
    (hmem : (place, delivery) ∈ deliveries history) :
    ∃ last final, LastUnder delivery.key history last final := by
  obtain ⟨⟨last, final⟩, hlast⟩ := Table.exists_lastWith (fun item => item.2.key) hmem
  exact ⟨last, final, lastUnder_iff.mpr hlast⟩

/-- What is under a key in the end was delivered last under it. -/
theorem find?_collected_eq_some_iff {key : String} {nodes : List Node} :
    (collected ((deliveries history).map Prod.snd)).find? key = some nodes ↔
      ∃ place delivery, LastUnder key history place delivery ∧ delivery.nodes = nodes := by
  rw [collected, List.foldl_map, Table.find?_built_eq_some_iff]
  constructor
  · rintro ⟨⟨place, delivery⟩, hlast, rfl⟩
    exact ⟨place, delivery, hlast, rfl⟩
  · rintro ⟨place, delivery, hlast, rfl⟩
    exact ⟨_, hlast, rfl⟩

/-! ## What is returned in the end -/

section Checks

variable {token : Token} {chains : List Blockchain} {permits : Nat} {sessions : SessionCache}

/-- The results are what was delivered last under each key. -/
theorem results_of_isOver
    (htrace : Trace (Possible step) (.initial token chains permits sessions) history state)
    (hover : state.isOver = true) (key : String) (nodes : List Node) :
    state.results.find? key = some nodes ↔
      ∃ place delivery, LastUnder key history place delivery ∧ delivery.nodes = nodes := by
  obtain ⟨received, hreceived, hresults⟩ := inOrder_of_trace htrace rfl rfl
  have hqueue := ((sound_of_check htrace).of_isOver hover).2
  rw [hqueue, List.append_nil] at hreceived
  rw [hresults, hreceived]
  exact find?_collected_eq_some_iff

/-- In the end a task that obtained a session, or delivered anything, has obtained one session and
has delivered once, under its key, the nodes that its probes verified. -/
theorem delivered_of_isOver
    (htrace : Trace (Possible step) (.initial token chains permits sessions) history state)
    (hover : state.isOver = true) {place : Nat}
    (hsome : obtainedBy place history ≠ [] ∨ deliveredBy place history ≠ []) :
    ∃ session nodes, obtainedBy place history = [session] ∧
      nodes.Perm (verifiedBy place history) ∧
      deliveredBy place history = [{ key := session.key, nodes }] := by
  have hown : own place history ≠ [] := by
    intro hnil
    simp [obtainedBy, deliveredBy, hnil] at hsome
  obtain ⟨chain, hchain⟩ := chain_of_own htrace hown
  obtain ⟨task, htask, htaskTrace⟩ := task_of_chain htrace hchain
  obtain ⟨-, -, haccounted⟩ := accounted_of_trace htaskTrace
  have hended := ((sound_of_check htrace).of_isOver hover).1 task (List.mem_of_getElem? htask)
  unfold Accounted at haccounted
  simp only [hended] at haccounted
  -- the task ended with nothing, or with one delivery
  rcases haccounted with ⟨hobtained, -, hdelivered⟩ | ⟨session, supporting, haccount⟩
  · rcases hsome with hobtainedSome | hdeliveredSome
    · exact absurd hobtained hobtainedSome
    · exact absurd hdelivered hdeliveredSome
  · exact ⟨session, supporting, haccount⟩

end Checks

/-- Is the node among the results under the key? -/
def Lists (state : State) (key : String) (node : Node) : Prop :=
  ∃ nodes, state.results.find? key = some nodes ∧ node ∈ nodes

/-- **The last delivery under a key decides.**  A task that obtained a session delivers once,
under the key of the session, the nodes that its probes verified; yet what is returned under the
key is what was delivered last under it.  A node that the task verified is listed exactly when
the task that delivered last verified it too. -/
theorem last_delivery_decides {gateway : Gateway} {application : Application}
    {chains : List Blockchain} {sessions : SessionCache}
    (hstart : gateway.startCheck application chains sessions = .ok start)
    (htrace : Trace (Possible step) start history state) (hover : state.isOver = true)
    {place : Nat} {session : Session} (hobtained : session ∈ obtainedBy place history) :
    (∃ nodes, deliveredBy place history = [{ key := session.key, nodes }] ∧
        nodes.Perm (verifiedBy place history)) ∧
      ∃ last delivery lastSession, LastUnder session.key history last delivery ∧
        obtainedBy last history = [lastSession] ∧ lastSession.key = session.key ∧
        delivery.nodes.Perm (verifiedBy last history) ∧
        state.results.find? session.key = some delivery.nodes ∧
        ∀ node ∈ verifiedBy place history,
          Lists state session.key node ↔ node ∈ verifiedBy last history := by
  obtain ⟨-, rfl⟩ := Gateway.startCheck_eq_ok_iff.mp hstart
  obtain ⟨obtained, nodes, hsession, hnodes, hdelivered⟩ :=
    delivered_of_isOver htrace hover (Or.inl (List.ne_nil_of_mem hobtained))
  rw [hsession, List.mem_singleton] at hobtained
  subst hobtained
  refine ⟨⟨nodes, hdelivered, hnodes⟩, ?_⟩
  -- the task has delivered under the key, so some delivery was the last one
  have hmade : (place, { key := session.key, nodes }) ∈ deliveries history := by
    rw [mem_deliveries_iff, hdelivered]
    exact List.mem_singleton_self _
  obtain ⟨last, delivery, hlast⟩ := exists_lastUnder hmade
  have hlastMade := mem_deliveries_iff.mp hlast.mem
  obtain ⟨lastSession, lastNodes, hlastSession, hlastNodes, hlastDelivered⟩ :=
    delivered_of_isOver htrace hover (Or.inr (List.ne_nil_of_mem hlastMade))
  rw [hlastDelivered, List.mem_singleton] at hlastMade
  subst hlastMade
  have hresult := (results_of_isOver htrace hover session.key lastNodes).mpr ⟨last, _, hlast, rfl⟩
  refine ⟨last, _, lastSession, hlast, hlastSession, hlast.key_eq, hlastNodes, hresult, ?_⟩
  intro node hnode
  rw [← hlastNodes.mem_iff, Lists, hresult]
  simp

/-! ## A verified node that is lost -/

def soleNode : Node := { address := "node-1" }

def mainChain : Blockchain := { id := "0021", identity := "1" }

def soleSession : Session := { key := "session", nodes := [soleNode] }

/-- The chain is named twice, and one probe is allowed at a time.  The first task gets the session
and verifies the node; the second one, which has found the same session, is cancelled while its
probe waits for the answer, and delivers after the first one. -/
def overtaken : List Action :=
  [.task 0 (.call (.look 0)), .task 0 (.call (.answer (.ok soleSession) 0)), .task 0 (.call .keep),
    .task 1 (.call (.look 0)), .task 0 (.probe 0 .grant), .task 0 (.probe 0 .launch),
    .task 0 (.probe 0 (.answered (.ok { response := "1" }))), .task 1 (.probe 0 .grant),
    .task 1 (.probe 0 .launch), .cancel, .task 1 (.probe 0 .drop), .task 0 (.probe 0 .report),
    .task 0 .receive, .task 0 .conclude, .task 0 .deliver, .task 1 (.probe 0 .report),
    .task 1 .receive, .task 1 .conclude, .task 1 .deliver, .collect, .collect]

def twiceNamed : State :=
  .initial (.ofApplication default .freemium) [mainChain, mainChain] 1 {}

theorem startCheck_twiceNamed :
    Gateway.startCheck { maxInFlight := 1 } default [mainChain, mainChain] {} = .ok twiceNamed :=
  Gateway.startCheck_eq_ok_iff.mpr ⟨by decide, rfl⟩

theorem overtaken_taken :
    ∃ history state, takeAll step twiceNamed overtaken = some (history, state) ∧
      state.isOver = true ∧ state.results.find? "session" = some [] ∧
      obtainedBy 0 history = [soleSession] ∧ verifiedBy 0 history = [soleNode] := by
  have hends : (takeAll step twiceNamed overtaken).map (fun taken =>
      (taken.2.isOver, taken.2.results.find? "session", obtainedBy 0 taken.1,
        verifiedBy 0 taken.1)) = some (true, some [], [soleSession], [soleNode]) := by
    decide
  obtain ⟨⟨history, state⟩, htaken, hends⟩ := Option.map_eq_some_iff.mp hends
  simp only [Prod.mk.injEq] at hends
  exact ⟨history, state, htaken, hends⟩

/-- The general statement at this run: the last delivery is that of the second task, which has
verified nothing. -/
theorem last_delivery_decides_overtaken :
    ∃ history state, Trace (Possible step) twiceNamed history state ∧ state.isOver = true ∧
      soleSession ∈ obtainedBy 0 history ∧
      (∃ nodes, deliveredBy 0 history = [{ key := "session", nodes }] ∧
        nodes.Perm (verifiedBy 0 history)) ∧
      ∃ last delivery, LastUnder "session" history last delivery ∧ delivery.nodes = [] := by
  obtain ⟨history, state, htaken, hover, hresult, hobtained, -⟩ := overtaken_taken
  have htrace := Trace.of_takeAll htaken
  have hmem : soleSession ∈ obtainedBy 0 history := by
    rw [hobtained]
    exact List.mem_singleton_self _
  obtain ⟨hdelivered, last, delivery, -, hlast, -, -, -, hfind, -⟩ :=
    last_delivery_decides startCheck_twiceNamed htrace hover hmem
  have hnodes : some delivery.nodes = some [] := hfind.symm.trans hresult
  exact ⟨history, state, htrace, hover, hmem, hdelivered, last, delivery, hlast,
    Option.some.inj hnodes⟩

/-- Not every node that was verified is among the results. -/
theorem verified_node_lost :
    ¬ ∀ (gateway : Gateway) (application : Application) (chains : List Blockchain)
        (sessions : SessionCache) (start : State) (history : List Step) (state : State),
      gateway.startCheck application chains sessions = .ok start →
      Trace (Possible step) start history state → state.isOver = true →
      ∀ place session, session ∈ obtainedBy place history →
        ∀ node ∈ verifiedBy place history, Lists state session.key node := by
  intro hkept
  obtain ⟨history, state, htaken, hover, hresult, hobtained, hverified⟩ := overtaken_taken
  have hlists : Lists state soleSession.key soleNode :=
    hkept _ _ _ _ _ history state startCheck_twiceNamed (Trace.of_takeAll htaken) hover 0
      soleSession
      (by rw [hobtained]; exact List.mem_singleton_self _) soleNode
      (by rw [hverified]; exact List.mem_singleton_self _)
  obtain ⟨nodes, hfind, hmem⟩ := hlists
  rw [show state.results.find? soleSession.key = some [] from hresult] at hfind
  cases hfind
  cases hmem

end ChainGateway.Check
