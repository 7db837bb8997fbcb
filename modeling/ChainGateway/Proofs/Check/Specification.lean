import ChainGateway.Proofs.Check.Launches
import ChainGateway.Proofs.Check.Results
import ChainGateway.Proofs.Check.Runs

/-!
# What an uncancelled check computes

Suppose that what is answered depends on nothing but what is asked: `Answers` says which session
there is under each key, if any, and how each node answers each relay.  Then a check that is not
cancelled computes a function of the list of chains, whatever the delays, the order of steps and
the number of probes at a time (`uncancelled_computes`).  Under the key of each session that could
be obtained are the nodes whose answer has the identity of the chain, in the order in which they
reported, and there is nothing else.  So it does not matter in which order, or how often,
the chains are named.

Two chains whose sessions have one key would take each other's place in the results, so this
needs that no two chains of the list have.  And a check that is to have more permits than there can
be does not begin, so it does not return either (`accepted_check_fails`).

## Strategy

What a node is asked is spelled out (`identityRelay`), and the probes of a task are shown to send
just that.  `Settled` says at each stage of a task which nodes it is going to deliver: while its
probes are at work, those collected, those reported and those that are going to be verified are
together the ones that the specification asks for.  That a step keeps this is
`Probing.count_step`, with what is expected of a probe being what its node answers.  What the check
returns is then read off the last delivery under each key.
-/

namespace ChainGateway.Check

/-! ## What is asked and what is answered -/

/-- The key under which the session of an application on a chain is asked for. -/
def sessionKey (application : Application) (chain : Blockchain) : SessionKey where
  publicKey := application.credentials.applicationKey
  chain := chain.id

/-- What a node of a session is sent to tell which chain it serves. -/
def identityRelay (application : Application) (chain : Blockchain) (session : Session)
    (node : Node) : Relay where
  method := "POST"
  chain := chain.id
  data := chain.probe
  path := chain.path
  token :=
    { version := application.credentials.version
      applicationKey := application.credentials.applicationKey
      clientKey := application.credentials.clientKey
      signature := application.credentials.applicationSignature }
  session := session
  node := node

/-- Probes send what the specification asks for, whatever the plan. -/
theorem probeRelay_ofApplication (application : Application) (plan : Plan) (chain : Blockchain)
    (session : Session) (node : Node) :
    probeRelay (.ofApplication application plan) chain session node =
      identityRelay application chain session node := by
  cases plan <;> rfl

/-- What is answered, as a function of what is asked. -/
structure Answers where
  /-- The session that can be obtained under a key, if one can. -/
  session : SessionKey → Option Session
  relay : Relay → Except Error RelayAnswer

/-- What becomes of a task that calls for its session is what is answered: it obtains the session,
or ends where there is none. -/
def FollowsSession (answers : Answers) (key : SessionKey) : TaskStage → Prop
  | .probing probing => answers.session key = some probing.session
  | .ended => answers.session key = none
  | .retrieving _ | .probed _ _ => True

/-- What a node answers to a probe is what is answered to the relay that it was sent. -/
def FollowsRelay (answers : Answers) (probing : Probing) : TaskAction → Prop
  | .probe position (.answered outcome) =>
      ∀ probe ∈ probing.probes[position]?, outcome = answers.relay probe.relay
  | _ => True

/-- What a step says to its task is what is answered. -/
def Follows (answers : Answers) (moment : TaskStep) : Prop :=
  match moment.before.stage with
  | .retrieving call => FollowsSession answers call.key moment.after.stage
  | .probing probing => FollowsRelay answers probing moment.action.action
  | .probed _ _ | .ended => True

instance (answers : Answers) (key : SessionKey) :
    (stage : TaskStage) → Decidable (FollowsSession answers key stage)
  | .probing probing => decEq (answers.session key) (some probing.session)
  | .ended => decEq (answers.session key) none
  | .retrieving _ | .probed _ _ => instDecidableTrue

instance (answers : Answers) (probing : Probing) :
    (action : TaskAction) → Decidable (FollowsRelay answers probing action)
  | .probe position (.answered outcome) =>
      inferInstanceAs (Decidable
        (∀ probe ∈ probing.probes[position]?, outcome = answers.relay probe.relay))
  | .probe _ .grant | .probe _ .launch | .probe _ .drop | .probe _ .report => instDecidableTrue
  | .call _ | .abandon | .receive | .conclude | .deliver => instDecidableTrue

instance (answers : Answers) : (moment : TaskStep) → Decidable (Follows answers moment)
  | ⟨⟨_, _, .retrieving call⟩, _, next⟩ =>
      inferInstanceAs (Decidable (FollowsSession answers call.key next.stage))
  | ⟨⟨_, _, .probing probing⟩, event, _⟩ =>
      inferInstanceAs (Decidable (FollowsRelay answers probing event.action))
  | ⟨⟨_, _, .probed _ _⟩, _, _⟩ | ⟨⟨_, _, .ended⟩, _, _⟩ => instDecidableTrue

/-- Does the node of a session answer with the identity of the chain? -/
def serves (application : Application) (answers : Answers) (chain : Blockchain)
    (session : Session) (node : Node) : Bool :=
  match answers.relay (identityRelay application chain session node) with
  | .ok answer => answer.response == chain.identity
  | .error _ => false

/-- The nodes of a session that answer with the identity of the chain. -/
def servingNodes (application : Application) (answers : Answers) (chain : Blockchain)
    (session : Session) : List Node :=
  session.nodes.filter (serves application answers chain session)

/-- A probe finds out whether its node serves the chain. -/
theorem verifies_answers (application : Application) (answers : Answers) (chain : Blockchain)
    (session : Session) (node : Node) :
    verifies chain (answers.relay (identityRelay application chain session node)) =
      serves application answers chain session node := by
  unfold verifies serves
  cases answers.relay (identityRelay application chain session node) <;> rfl

/-! ## What the results are to be -/

/-- The results that the answers specify for a list of chains. -/
structure Specifies (application : Application) (answers : Answers) (chains : List Blockchain)
    (results : Table String (List Node)) : Prop where
  /-- The keys are those of the sessions that could be obtained. -/
  keys : ∀ key, (∃ nodes, results.find? key = some nodes) ↔
    ∃ chain ∈ chains, ∃ session,
      answers.session (sessionKey application chain) = some session ∧ session.key = key
  /-- Under the key of a session are the nodes that serve its chain, in some order. -/
  nodes : ∀ chain ∈ chains, ∀ session,
    answers.session (sessionKey application chain) = some session →
    ∃ nodes, results.find? session.key = some nodes ∧
      nodes.Perm (servingNodes application answers chain session)

/-- No two chains of the list have sessions with one key. -/
def KeysApart (application : Application) (answers : Answers) (chains : List Blockchain) : Prop :=
  ∀ first ∈ chains, ∀ second ∈ chains, ∀ firstSession secondSession,
    answers.session (sessionKey application first) = some firstSession →
    answers.session (sessionKey application second) = some secondSession →
    firstSession.key = secondSession.key → first = second

/-- The results have the same keys, with the same nodes up to their order. -/
def SameUpToOrder (first second : Table String (List Node)) : Prop :=
  ∀ key, Option.Rel List.Perm (first.find? key) (second.find? key)

variable {application : Application} {answers : Answers}

/-- The order in which chains are named, and how often, makes no difference. -/
theorem Specifies.sameUpToOrder {chains others : List Blockchain}
    {first second : Table String (List Node)}
    (hfirst : Specifies application answers chains first)
    (hsecond : Specifies application answers others second)
    (hmem : ∀ chain, chain ∈ others ↔ chain ∈ chains) : SameUpToOrder first second := by
  intro key
  have hkeys : (∃ nodes, first.find? key = some nodes) ↔
      ∃ nodes, second.find? key = some nodes := by
    rw [hfirst.keys, hsecond.keys]
    simp only [hmem]
  cases hfind : first.find? key with
  | none =>
      cases hother : second.find? key with
      | none => exact .none
      | some nodes =>
          obtain ⟨nodes, hsome⟩ := hkeys.mpr ⟨nodes, hother⟩
          rw [hfind] at hsome
          cases hsome
  | some nodes =>
      obtain ⟨chain, hchain, session, hsession, rfl⟩ := (hfirst.keys key).mp ⟨nodes, hfind⟩
      -- under one key both list the serving nodes of one session, in some order
      obtain ⟨firstNodes, hfirstFind, hfirstPerm⟩ := hfirst.nodes chain hchain session hsession
      obtain ⟨secondNodes, hsecondFind, hsecondPerm⟩ :=
        hsecond.nodes chain ((hmem chain).mpr hchain) session hsession
      have hsame : firstNodes = nodes := Option.some.inj (hfirstFind.symm.trans hfind)
      rw [hsecondFind]
      exact .some (hsame ▸ hfirstPerm.trans hsecondPerm.symm)

/-! ## What a task is going to deliver -/

/-- What the answers make of a task at each of its stages. -/
def Settled (application : Application) (answers : Answers) (chain : Blockchain)
    (log : List TaskStep) (task : ChainTask) : Prop :=
  match task.stage with
  | .retrieving call =>
      call.key = sessionKey application chain ∧ log.filterMap delivered? = []
  | .probing probing =>
      answers.session (sessionKey application chain) = some probing.session ∧
        probing.probes.map Probe.relay =
          probing.session.nodes.map (identityRelay application chain probing.session) ∧
        (∀ node,
          probing.count (Option.guard (serves application answers chain probing.session)) node =
            (servingNodes application answers chain probing.session).count node) ∧
        log.filterMap delivered? = []
  | .probed session supporting =>
      answers.session (sessionKey application chain) = some session ∧
        supporting.Perm (servingNodes application answers chain session) ∧
        log.filterMap delivered? = []
  | .ended =>
      answers.session (sessionKey application chain) = none ∧ log.filterMap delivered? = [] ∨
        ∃ session supporting, answers.session (sessionKey application chain) = some session ∧
          supporting.Perm (servingNodes application answers chain session) ∧
          log.filterMap delivered? = [{ key := session.key, nodes := supporting }]

/-- Before a cancellation a probe settles what was expected of it by verifying it. -/
theorem Probe.Moves.settles_eq {chain : Blockchain} {probe next : Probe}
    {commons after : ProbeCommons} {action : ProbeAction} {test : Node → Bool}
    (hmoves : probe.Moves chain false commons action next after)
    (hanswer : ∀ outcome, action = .answered outcome → verifies chain outcome = test probe.node) :
    action.settles (Option.guard test) probe.node = action.verifies chain probe.node := by
  cases hmoves with
  | answered outcome hstage hcancelled =>
      simp only [ProbeAction.settles, ProbeAction.verifies, hanswer outcome rfl, Option.guard]
      split <;> rfl
  | dropped hstage hcancelled => cases hcancelled
  | granted | launched | reported => rfl

namespace Probing

variable {chain : Blockchain} {probing next : Probing} {free after place : Nat}
  {action : ProbeAction}

/-- Before a cancellation, and with the answers that are expected, no step of a probe changes what
the probes are going to report. -/
theorem count_eq {test : Node → Bool}
    (hstep : probing.step chain false free place action = some (next, after))
    (hanswer : ∀ outcome, action = .answered outcome → ∀ probe,
      probing.probes[place]? = some probe → verifies chain outcome = test probe.node)
    (node : Node) :
    next.count (Option.guard test) node = probing.count (Option.guard test) node := by
  obtain ⟨probe, hprobe, -, hcount⟩ := count_step hstep
  obtain ⟨stepping, moved, reports, hstepping, hmoves, -⟩ := step_eq_some_iff.mp hstep
  have hsame : stepping = probe := Option.some.inj (hstepping.symm.trans hprobe)
  subst hsame
  have hsettles : action.settles (Option.guard test) stepping.node =
      action.verifies chain stepping.node :=
    hmoves.settles_eq fun outcome haction => hanswer outcome haction stepping hprobe
  have hnext := hcount (Option.guard test) node
  rw [hsettles] at hnext
  omega

theorem relays_step {cancelled : Bool}
    (hstep : probing.step chain cancelled free place action = some (next, after)) :
    next.probes.map Probe.relay = probing.probes.map Probe.relay := by
  obtain ⟨probe, moved, reports, hprobe, hmoves, rfl⟩ := step_eq_some_iff.mp hstep
  exact map_set_of_eq hprobe hmoves.relay_eq

theorem relays_receive? (hreceive : probing.receive? = some next) :
    next.probes.map Probe.relay = probing.probes.map Probe.relay := by
  obtain ⟨⟨supporting?, reports⟩, -, rfl⟩ := Option.map_eq_some_iff.mp hreceive
  rfl

/-- If the probes send what the nodes are to be asked, then so does each of them. -/
theorem relay_of_mem {asked : Node → Relay} (hnode : ∀ node, (asked node).node = node)
    (hrelays : probing.probes.map Probe.relay = probing.session.nodes.map asked) {probe : Probe}
    (hmem : probe ∈ probing.probes) : probe.relay = asked probe.node := by
  have hrelay : probe.relay ∈ probing.session.nodes.map asked :=
    hrelays ▸ List.mem_map_of_mem hmem
  obtain ⟨node, -, hasked⟩ := List.mem_map.mp hrelay
  rw [Probe.node, ← hasked, hnode]

end Probing

section Tasks

variable {plan : Plan} {chain : Blockchain} {log : List TaskStep} {task next : ChainTask}

/-- Every step that follows the answers keeps what the task is going to deliver. -/
theorem Settled.step {event : TaskEvent}
    (hsettled : Settled application answers task.chain log task)
    (hsound : task.Sound) (htoken : task.token = .ofApplication application plan)
    (hevolves : task.Evolves event next) (hcancelled : event.cancelled = false)
    (hfollows : Follows answers ⟨task, event, next⟩) :
    Settled application answers task.chain (log ++ [⟨task, event, next⟩]) next := by
  unfold Settled at hsettled
  unfold ChainTask.Sound at hsound
  obtain ⟨cancelled, action⟩ := event
  obtain ⟨commons, after, hmoves⟩ := hevolves
  simp only at hcancelled
  subst hcancelled
  cases hmoves with
  | called hstage hwaits hcall hreturned hfailed =>
      simp only [hstage] at hsettled
      obtain ⟨hkey, hdelivered⟩ := hsettled
      refine ⟨?_, undelivered_append hdelivered (by simp [hstage])⟩
      cases hcall <;> exact hkey
  | obtained hstage hwaits hcall hreturned =>
      simp only [hstage] at hsettled
      obtain ⟨hkey, hdelivered⟩ := hsettled
      simp only [Follows, FollowsSession, hstage, ChainTask.startProbes, ChainTask.goTo, hkey]
        at hfollows
      refine ⟨hfollows, ?_, fun node => ?_, undelivered_append hdelivered (by simp [hstage])⟩
      · -- the relays are built here, and stay what they are from now on
        simp [Probing.ofSession, htoken, probeRelay_ofApplication]
      · rw [Probing.count_ofSession, List.filterMap_eq_filter]
        rfl
  | unobtained hstage | crashed hstage =>
      -- whether the service had none or the task broke down, there is no session
      simp only [hstage] at hsettled
      obtain ⟨hkey, hdelivered⟩ := hsettled
      simp only [Follows, FollowsSession, hstage, ChainTask.goTo, hkey] at hfollows
      exact Or.inl ⟨hfollows, undelivered_append hdelivered (by simp [hstage])⟩
  | abandoned hstage hcancelled => cases hcancelled
  | @probed probing moved place free action hstage hprobe =>
      simp only [hstage] at hsettled
      obtain ⟨hsession, hrelays, hcount, hdelivered⟩ := hsettled
      obtain ⟨-, -, hsame, -⟩ := Probing.count_step hprobe
      refine ⟨by rw [hsame]; exact hsession, ?_, fun node => ?_,
        undelivered_append hdelivered (by simp [hstage])⟩
      · rw [hsame, Probing.relays_step hprobe, hrelays]
      · -- a node that answers verifies what was expected of it, so the count stays
        rw [hsame, ← hcount]
        refine Probing.count_eq hprobe (fun outcome haction probe hplace => ?_) node
        subst haction
        simp only [Follows, FollowsRelay, hstage, hplace] at hfollows
        rw [hfollows _ rfl, Probing.relay_of_mem (fun _ => rfl) hrelays (List.mem_of_getElem? hplace),
          verifies_answers]
  | received hstage hreceive =>
      simp only [hstage] at hsettled
      obtain ⟨hsession, hrelays, hcount, hdelivered⟩ := hsettled
      obtain ⟨hsame, hreceived⟩ := Probing.count_receive? hreceive
      refine ⟨by rw [hsame]; exact hsession, ?_, fun node => ?_,
        undelivered_append hdelivered (by simp [hstage])⟩
      · rw [hsame, Probing.relays_receive? hreceive, hrelays]
      · rw [hsame, hreceived]
        exact hcount node
  | concluded hstage hclosed =>
      -- with all reports taken in, whatever counts has been collected
      simp only [hstage] at hsettled hsound
      obtain ⟨hsession, -, hcount, hdelivered⟩ := hsettled
      refine ⟨hsession, List.perm_iff_count.mpr fun node => ?_,
        undelivered_append hdelivered (by simp [hstage])⟩
      rw [← hcount, hsound.count_of_isClosed hclosed]
  | @delivered session supporting deliveries hstage hsend =>
      simp only [hstage] at hsettled
      obtain ⟨hsession, hnodes, hdelivered⟩ := hsettled
      refine Or.inr ⟨session, supporting, hsession, hnodes, ?_⟩
      rw [filterMap_append_singleton, hdelivered]
      simp [delivered?, hstage]

theorem settled_of_trace
    (htrace : Trace ChainTask.Evolves (.ofChain (.ofApplication application plan) chain) log task)
    (hundisturbed : ∀ moment ∈ log, moment.action.cancelled = false)
    (hfollows : ∀ moment ∈ log, Follows answers moment) :
    Settled application answers chain log task := by
  induction htrace with
  | start => exact ⟨by cases plan <;> rfl, rfl⟩
  | @step log task next event htrace hevolves ih =>
      obtain ⟨hchain, hsound, -⟩ := accounted_of_trace htrace
      have hlast : (⟨task, event, next⟩ : TaskStep) ∈ log ++ [⟨task, event, next⟩] :=
        List.mem_append_right _ (List.mem_singleton_self _)
      have hsettled := ih (fun moment hmem => hundisturbed moment (List.mem_append_left _ hmem))
        (fun moment hmem => hfollows moment (List.mem_append_left _ hmem))
      rw [← hchain] at hsettled ⊢
      exact hsettled.step hsound (token_of_trace htrace) hevolves (hundisturbed _ hlast)
        (hfollows _ hlast)

end Tasks

/-! ## What a check returns -/

/-- A check that is not cancelled and is answered as the functions say, after a history. -/
structure Undisturbed (answers : Answers) (start : State) (history : List Step)
    (state : State) : Prop where
  trace : Trace (Possible step) start history state
  follows : ∀ place, ∀ moment ∈ own place history, Follows answers moment
  cancelled_eq : state.cancelled = false

namespace Undisturbed

variable {plan : Plan} {chains : List Blockchain} {permits : Nat} {sessions : SessionCache}
  {history : List Step} {state : State}

/-- In the end each task has delivered what the answers make of it. -/
theorem settled_of_isOver
    (hrun : Undisturbed answers (.initial (.ofApplication application plan) chains permits sessions)
      history state)
    (hover : state.isOver = true) {place : Nat} {chain : Blockchain}
    (hchain : chains[place]? = some chain) :
    answers.session (sessionKey application chain) = none ∧ deliveredBy place history = [] ∨
      ∃ session supporting, answers.session (sessionKey application chain) = some session ∧
        supporting.Perm (servingNodes application answers chain session) ∧
        deliveredBy place history = [{ key := session.key, nodes := supporting }] := by
  obtain ⟨task, htask, htaskTrace⟩ := task_of_chain hrun.trace hchain
  have hended :=
    ((sound_of_check hrun.trace).of_isOver hover).1 task (List.mem_of_getElem? htask)
  have hsettled := settled_of_trace htaskTrace
    (own_cancelled_eq_false hrun.trace hrun.cancelled_eq) (hrun.follows place)
  unfold Settled at hsettled
  simp only [hended] at hsettled
  exact hsettled

/-- What was delivered is what the answers make of some chain. -/
theorem delivery_of_mem
    (hrun : Undisturbed answers (.initial (.ofApplication application plan) chains permits sessions)
      history state)
    (hover : state.isOver = true) {place : Nat} {delivery : Delivery}
    (hmem : (place, delivery) ∈ deliveries history) :
    ∃ chain ∈ chains, ∃ session, answers.session (sessionKey application chain) = some session ∧
      delivery.key = session.key ∧
      delivery.nodes.Perm (servingNodes application answers chain session) := by
  have hdelivered := mem_deliveries_iff.mp hmem
  have hown : own place history ≠ [] := by
    intro hnil
    simp [deliveredBy, hnil] at hdelivered
  obtain ⟨chain, hchain⟩ := chain_of_own hrun.trace hown
  rcases hrun.settled_of_isOver hover hchain with
    ⟨-, hnone⟩ | ⟨session, nodes, hsession, hnodes, hsole⟩
  · rw [hnone] at hdelivered
    cases hdelivered
  · rw [hsole, List.mem_singleton] at hdelivered
    subst hdelivered
    exact ⟨chain, List.mem_of_getElem? hchain, session, hsession, rfl, hnodes⟩

/-- In the end the results are those that the answers specify. -/
theorem specifies
    (hrun : Undisturbed answers (.initial (.ofApplication application plan) chains permits sessions)
      history state)
    (hkeys : KeysApart application answers chains) (hover : state.isOver = true) :
    Specifies application answers chains state.results := by
  have hfound : ∀ chain ∈ chains, ∀ session,
      answers.session (sessionKey application chain) = some session →
        ∃ nodes, state.results.find? session.key = some nodes := by
    intro chain hchain session hsession
    obtain ⟨place, hplace⟩ := List.mem_iff_getElem?.mp hchain
    rcases hrun.settled_of_isOver hover hplace with
      ⟨hnone, -⟩ | ⟨obtained, nodes, hobtained, -, hsole⟩
    · rw [hsession] at hnone
      cases hnone
    · have hsame : session = obtained := Option.some.inj (hsession.symm.trans hobtained)
      subst hsame
      have hmem : (place, { key := session.key, nodes }) ∈ deliveries history := by
        rw [mem_deliveries_iff, hsole]
        exact List.mem_singleton_self _
      obtain ⟨last, delivery, hlast⟩ := exists_lastUnder hmem
      exact ⟨_, (results_of_isOver hrun.trace hover _ _).mpr ⟨last, delivery, hlast, rfl⟩⟩
  refine ⟨fun key => ⟨?_, ?_⟩, ?_⟩
  · rintro ⟨nodes, hfind⟩
    obtain ⟨place, delivery, hlast, -⟩ := (results_of_isOver hrun.trace hover key nodes).mp hfind
    obtain ⟨chain, hchain, session, hsession, hkey, -⟩ := hrun.delivery_of_mem hover hlast.mem
    exact ⟨chain, hchain, session, hsession, hkey.symm.trans hlast.key_eq⟩
  · rintro ⟨chain, hchain, session, hsession, rfl⟩
    exact hfound chain hchain session hsession
  · intro chain hchain session hsession
    obtain ⟨nodes, hfind⟩ := hfound chain hchain session hsession
    refine ⟨nodes, hfind, ?_⟩
    obtain ⟨place, delivery, hlast, rfl⟩ := (results_of_isOver hrun.trace hover _ nodes).mp hfind
    obtain ⟨other, hother, otherSession, hotherSession, hkey, hnodes⟩ :=
      hrun.delivery_of_mem hover hlast.mem
    -- the last delivery under the key is for the same chain, even if by another task
    have hsame : chain = other :=
      hkeys chain hchain other hother session otherSession hsession hotherSession
        (hlast.key_eq.symm.trans hkey)
    subst hsame
    have hsessions : session = otherSession := Option.some.inj (hsession.symm.trans hotherSession)
    rw [hsessions]
    exact hnodes

end Undisturbed

/-! ## An uncancelled check computes what the answers specify -/

/-- What a check comes to that is not cancelled and is answered as the functions say. -/
structure Computes (application : Application) (answers : Answers) (chains : List Blockchain)
    (state : State) : Prop where
  /-- While it has not returned it can go on at any instant, if what it waits for is answered. -/
  goesOn : state.isOver = false → ∀ now, ∃ action next,
    action ≠ .cancel ∧ action.isAt now = true ∧ Possible step state action next
  /-- It does not go on for ever. -/
  ends : ∀ states : Nat → State, states 0 = state →
    ¬ ∀ n, ∃ action, Possible step (states n) action (states (n + 1))
  /-- When it cannot go on, whatever is answered to it, it has returned. -/
  isOver : (∀ action, action ≠ .cancel → step state action = none) → state.isOver = true
  /-- What it returns is what the answers specify. -/
  specifies : state.isOver = true → Specifies application answers chains state.results

/-- **An uncancelled check computes what the answers specify.**  A check that is not cancelled
returns exactly if it can have its permits, and what it returns is what some schedule comes to.
Whatever the order of steps, the delays and the number of probes at a time, a schedule comes to its
end, and what it comes to is what the answers specify for the chains: the same, up to the order
of nodes, for any two checks of chains that are the same as a set. -/
theorem uncancelled_computes {application : Application} {answers : Answers}
    {chains : List Blockchain} (hkeys : KeysApart application answers chains)
    (gateway : Gateway) :
    (∀ {σ : Type} (backend : Backend σ) (state : ChainGateway.State σ),
        ((∃ report, gateway.check backend state application chains none = .ok report) ↔
            max 1 gateway.maxInFlight ≤ permitLimit) ∧
          ∀ report, gateway.check backend state application chains none = .ok report →
            ∃ start history last,
              gateway.startCheck application chains state.sessions = .ok start ∧
              Trace (Possible step) start history last ∧ last.isOver = true ∧
              last.cancelled = false ∧ report.supporting = last.results) ∧
      ∀ sessions start history state,
        gateway.startCheck application chains sessions = .ok start →
        Undisturbed answers start history state →
        Computes application answers chains state ∧
          ∀ (otherGateway : Gateway) (others : List Blockchain) (otherSessions : SessionCache)
            (otherStart : State) (otherHistory : List Step) (otherState : State),
            (∀ chain, chain ∈ others ↔ chain ∈ chains) →
            otherGateway.startCheck application others otherSessions = .ok otherStart →
            Undisturbed answers otherStart otherHistory otherState →
            state.isOver = true → otherState.isOver = true →
            SameUpToOrder state.results otherState.results := by
  refine ⟨fun {σ} backend state => ⟨exists_check_iff, fun report hcheck => ?_⟩,
    fun sessions start history state hstart hrun => ?_⟩
  · obtain ⟨start, history, last, hstart, htrace, hover, hcancelled, hsupporting, -⟩ :=
      trace_of_check hcheck
    exact ⟨start, history, last, hstart, htrace, hover, hcancelled rfl, hsupporting⟩
  · obtain ⟨-, rfl⟩ := Gateway.startCheck_eq_ok_iff.mp hstart
    have hsound := sound_of_check hrun.trace
    have hpositive : 0 < max 1 gateway.maxInFlight := by omega
    refine ⟨⟨fun hover now => ?_, fun states _ => State.not_forever states,
      hsound.isOver_of_stuck hpositive, hrun.specifies hkeys⟩, ?_⟩
    · obtain ⟨action, next, hother, hinstant, hmoves⟩ := hsound.exists_next hpositive hover now
      exact ⟨action, next, hother, hinstant, step_eq_some_iff.mpr hmoves⟩
    · intro otherGateway others otherSessions otherStart otherHistory otherState hmem hotherStart
        hotherRun hover hotherOver
      obtain ⟨-, rfl⟩ := Gateway.startCheck_eq_ok_iff.mp hotherStart
      -- the other chains are apart as these are
      have hotherKeys : KeysApart application answers others := by
        intro first hfirst second hsecond
        exact hkeys first ((hmem first).mp hfirst) second ((hmem second).mp hsecond)
      exact (hrun.specifies hkeys hover).sameUpToOrder
        (hotherRun.specifies hotherKeys hotherOver) hmem

/-! ## Three tasks, two chains, one session -/

/-- Only the first chain has a session, and only one node of it answers the probe. -/
def partialAnswers : Answers where
  session key :=
    if key.chain = "0021" then
      some { key := "session", nodes := [{ address := "node-1" }, { address := "node-2" }] }
    else none
  relay relay :=
    if relay.node.address = "node-1" then .ok { response := "1" }
    else .error (.relayFailed "refused")

/-- The first chain is named twice, with another chain in between. -/
def namedChains : List Blockchain :=
  [{ id := "0021", identity := "1" }, { id := "0001" }, { id := "0021", identity := "1" }]

def namedStart : State := .initial (.ofApplication default .freemium) namedChains 1 {}

/-- A probe from its permit to its report. -/
def probeAt (place position : Nat) (outcome : Except Error RelayAnswer) : List Action :=
  [.task place (.probe position .grant), .task place (.probe position .launch),
    .task place (.probe position (.answered outcome)), .task place (.probe position .report),
    .task place .receive]

/-- The first task dispatches its session, and the third one finds it in the cache.  Their probes
take turns, and the third task delivers first. -/
def interleaved : List Action :=
  let session : Session :=
    { key := "session", nodes := [{ address := "node-1" }, { address := "node-2" }] }
  let verified := Except.ok { response := "1" }
  let refused := Except.error (.relayFailed "refused")
  [.task 0 (.call (.look 0)), .task 1 (.call (.look 0)),
    .task 1 (.call (.answer (.error (.dispatchFailed "no session")) 5)),
    .task 0 (.call (.answer (.ok session) 5)), .task 0 (.call .keep),
    .task 2 (.call (.look 7))] ++
    probeAt 2 0 verified ++ probeAt 0 1 refused ++ probeAt 2 1 refused ++ probeAt 0 0 verified ++
    [.task 2 .conclude, .task 2 .deliver, .task 0 .conclude, .task 0 .deliver, .collect, .collect]

theorem eq_of_session_partialAnswers {chain : Blockchain} {session : Session}
    (hchain : chain ∈ namedChains)
    (hsession : partialAnswers.session (sessionKey application chain) = some session) :
    chain = { id := "0021", identity := "1" } := by
  simp only [namedChains, List.mem_cons, List.not_mem_nil, or_false] at hchain
  rcases hchain with rfl | rfl | rfl
  · rfl
  · cases hsession
  · rfl

theorem keysApart_namedChains (application : Application) :
    KeysApart application partialAnswers namedChains := by
  intro first hfirst second hsecond firstSession secondSession hfirstSession hsecondSession _
  rw [eq_of_session_partialAnswers hfirst hfirstSession,
    eq_of_session_partialAnswers hsecond hsecondSession]

/-- The general statement at this run: the one session is listed with the one node that serves the
chain. -/
theorem uncancelled_computes_interleaved :
    KeysApart default partialAnswers namedChains ∧
      Gateway.startCheck { maxInFlight := 1 } default namedChains {} = .ok namedStart ∧
      ∃ history state, Undisturbed partialAnswers namedStart history state ∧
        state.isOver = true ∧ Specifies default partialAnswers namedChains state.results := by
  have hstart : Gateway.startCheck { maxInFlight := 1 } default namedChains {} = .ok namedStart :=
    Gateway.startCheck_eq_ok_iff.mpr ⟨by decide, rfl⟩
  refine ⟨keysApart_namedChains _, hstart, ?_⟩
  have hends : (takeAll step namedStart interleaved).map (fun taken =>
      (taken.2.isOver, taken.2.cancelled,
        decide (∀ place < 3, ∀ moment ∈ own place taken.1, Follows partialAnswers moment))) =
        some (true, false, true) := by
    decide
  obtain ⟨⟨history, state⟩, htaken, hends⟩ := Option.map_eq_some_iff.mp hends
  simp only [Prod.mk.injEq, decide_eq_true_eq] at hends
  obtain ⟨hover, hcancelled, hfollows⟩ := hends
  have htrace := Trace.of_takeAll htaken
  have hrun : Undisturbed partialAnswers namedStart history state := by
    refine ⟨htrace, fun place moment hmem => ?_, hcancelled⟩
    have hless := lt_of_own_ne_nil htrace (List.ne_nil_of_mem hmem)
    exact hfollows place hless moment hmem
  obtain ⟨hcomputes, -⟩ :=
    (uncancelled_computes (keysApart_namedChains _) _).2 _ _ _ _ hstart hrun
  exact ⟨history, state, hrun, hover, hcomputes.specifies hover⟩

/-! ## A check that does not return -/

/-- With this configuration, which is accepted, no check returns. -/
theorem accepted_check_fails :
    overcommitted.validate = .ok () ∧
      ∀ (repository : Repository) {σ : Type} (backend : Backend σ) (state : ChainGateway.State σ)
        (application : Application) (chains : List Blockchain),
        (Gateway.ofConfig overcommitted repository).check backend state application chains none =
          .error .permitOverflow := by
  refine ⟨rfl, fun repository {σ} backend state application chains => ?_⟩
  exact map_eq_error_iff.mpr (startCheck_overcommitted repository application chains state.sessions)

end ChainGateway.Check
