import ChainGateway.Proofs.Gateway.Stickiness

/-!
# What an empty preference selects

An empty text stands for having no preference, and then a relay should go to the first node of its
session, through the application of the pool that the random draw points at.  But documents and
sessions may name an application or a node by the empty text as well, and the lookup by name comes
before the fallback.  So an empty preference selects the first nameless entry if there is one, and
the fallback only if there is none (`Selects`).

Said in other words, the fallback is taken exactly if nothing is nameless, or if it is the first
nameless entry itself (`empty_preference_selects`).  A session with a nameless node behind the first
one, and a pool with a nameless application, are relayed to and through those (`nameless_taken`).
-/

namespace ChainGateway

namespace Gateway

open Affinity (Details)

/-! ## Choosing without a preference -/

section Choosing

variable {α : Type} {nameOf : α → String} {items : List α} {fallback chosen : α}

/-- The item is the first one of the list that has the empty name. -/
def FirstNameless (nameOf : α → String) (items : List α) (item : α) : Prop :=
  nameOf item = "" ∧ ∃ earlier later, items = earlier ++ item :: later ∧
    ∀ other ∈ earlier, nameOf other ≠ ""

/-- What is chosen without a preference: the first nameless item, or the fallback if all items have
names. -/
inductive Selects (nameOf : α → String) (items : List α) (fallback : α) : α → Prop
  | nameless {item : α} (hfirst : FirstNameless nameOf items item) :
      Selects nameOf items fallback item
  | fallback (hnamed : ∀ item ∈ items, nameOf item ≠ "") :
      Selects nameOf items fallback fallback

theorem find?_eq_some_iff_firstNameless :
    (items.find? fun item => nameOf item == "") = some chosen ↔
      FirstNameless nameOf items chosen := by
  rw [List.find?_eq_some_iff_append, FirstNameless]
  simp

theorem FirstNameless.unique {other : α} (hchosen : FirstNameless nameOf items chosen)
    (hother : FirstNameless nameOf items other) : other = chosen :=
  Option.some.inj ((find?_eq_some_iff_firstNameless.mpr hother).symm.trans
    (find?_eq_some_iff_firstNameless.mpr hchosen))

theorem FirstNameless.mem (hchosen : FirstNameless nameOf items chosen) : chosen ∈ items := by
  obtain ⟨-, earlier, later, rfl, -⟩ := hchosen
  exact List.mem_append_right _ List.mem_cons_self

/-- Looking the empty name up before falling back selects in this way. -/
theorem selects_getD :
    Selects nameOf items fallback
      ((items.find? fun item => nameOf item == "").getD fallback) := by
  cases hfind : items.find? fun item => nameOf item == "" with
  | some item => exact .nameless (find?_eq_some_iff_firstNameless.mp hfind)
  | none => exact .fallback fun item hmem => by simpa using List.find?_eq_none.mp hfind item hmem

/-- If anything is nameless, then so is what is selected. -/
theorem Selects.nameOf_eq_empty {item : α} (hselects : Selects nameOf items fallback chosen)
    (hmem : item ∈ items) (hname : nameOf item = "") : nameOf chosen = "" := by
  cases hselects with
  | nameless hfirst => exact hfirst.1
  | fallback hnamed => exact absurd hname (hnamed item hmem)

/-- The fallback is what is selected exactly if nothing is nameless before it is. -/
theorem Selects.eq_fallback_iff (hselects : Selects nameOf items fallback chosen) :
    chosen = fallback ↔
      (∀ item ∈ items, nameOf item ≠ "") ∨ FirstNameless nameOf items fallback := by
  cases hselects with
  | fallback hnamed => exact iff_of_true rfl (Or.inl hnamed)
  | nameless hfirst =>
      constructor
      · rintro rfl
        exact Or.inr hfirst
      · rintro (hnamed | hfallback)
        · exact absurd hfirst.1 (hnamed chosen hfirst.mem)
        · exact hfallback.unique hfirst

end Choosing

variable {σ : Type} {gateway : Gateway} {backend : Backend σ} {state : State σ} {route : Route}
  {request : RelayRequest}

theorem chooseNode_of_empty {session : Session} {first : Node}
    (hfirst : session.firstNode? = some first) :
    chooseNode session "" = .ok ((session.node? "").getD first) := by
  unfold chooseNode
  rw [hfirst]
  cases session.node? "" with
  | some node => rfl
  | none => rfl

theorem chooseApplication_of_empty {balancer : LoadBalancer} {draw : Nat} {drawn : Application}
    (hdrawn : balancer.applications[draw % balancer.applications.length]? = some drawn) :
    chooseApplication balancer "" draw = .ok ((balancer.application? "").getD drawn) := by
  unfold chooseApplication
  rw [hdrawn]
  cases balancer.application? "" with
  | some application => rfl
  | none => rfl

/-! ## Relays without a preference -/

/-- Where no node is preferred, one relay is handed over, and the node that is selected gets it. -/
theorem exists_relay_of_empty {chain : Blockchain} {application : Application} {details : Details}
    {obtained : Answer σ Session} {session : Session} {first : Node} {answer : Answer σ Unit}
    (hresolved : Resolved gateway state request route chain application details)
    (hempty : details.preference.node = "")
    (hobtained : Obtains backend state application chain obtained)
    (hsession : obtained.result = .ok session) (hfirst : session.firstNode? = some first)
    (hanswer : gateway.handle backend state route request = .ok answer) :
    ∃ relay, relaysOf answer.events = [relay] ∧ relay.session = session ∧
      Selects Node.address session.nodes first relay.node := by
  rw [hresolved.handle_eq, deliver_eq, hobtained] at hanswer
  obtain ⟨_, hsame, hanswer⟩ := bind_eq_ok_iff.mp hanswer
  cases hsame
  simp only [hsession, hempty, chooseNode_of_empty hfirst] at hanswer
  obtain ⟨after, -, rfl⟩ := map_eq_ok_iff.mp hanswer
  refine ⟨relayFor gateway request chain application session ((session.node? "").getD first), ?_,
    rfl, selects_getD⟩
  -- Obtaining the session hands nothing over, so this relay is the only one.
  rw [relaysOf_append, (session_frame hobtained).2, relaysOf_relayed, List.nil_append]

/-- Where no application is preferred, the request is served by the one that is selected. -/
theorem exists_resolved_of_empty {chain : Blockchain} {balancer : LoadBalancer} {draw : Nat}
    {drawn : Application} (hchain : gateway.repository.chain request.chainName = .ok chain)
    (hbalancer : gateway.repository.balancer request.balancerId = .ok balancer)
    (hredirect : balancer.redirect = false)
    (hempty : (resolveAffinity state request chain balancer).preference.application = "")
    (hdrawn : balancer.applications[draw % balancer.applications.length]? = some drawn) :
    ∃ application, Resolved gateway state request (.balancer draw) chain application
        (withChosen (resolveAffinity state request chain balancer) application) ∧
      Selects Application.id balancer.applications drawn application := by
  refine ⟨_, .balancer hchain hbalancer hredirect ?_, selects_getD⟩
  rw [hempty]
  exact chooseApplication_of_empty hdrawn

/-- **What is taken without a preference.**  A relay without a preferred node goes to the first
nameless node of its session, or else to the first node; a request without a preferred application
is served by the first nameless application of the pool, or else by the one that was drawn.  So the
first node, and the application that was drawn, are taken exactly if nothing is nameless or they
are the first nameless entry themselves. -/
theorem empty_preference_selects :
    (∀ (gateway : Gateway) (backend : Backend σ) (state : State σ) (route : Route)
        (request : RelayRequest) (chain : Blockchain) (application : Application)
        (details : Details) (obtained : Answer σ Session) (session : Session) (first : Node)
        (answer : Answer σ Unit),
      Resolved gateway state request route chain application details →
      details.preference.node = "" →
      Obtains backend state application chain obtained → obtained.result = .ok session →
      session.firstNode? = some first →
      gateway.handle backend state route request = .ok answer →
      ∃ relay, relaysOf answer.events = [relay] ∧ relay.session = session ∧
        Selects Node.address session.nodes first relay.node ∧
        (relay.node = first ↔
          (∀ node ∈ session.nodes, node.address ≠ "") ∨
            FirstNameless Node.address session.nodes first)) ∧
    ∀ (gateway : Gateway) (state : State σ) (request : RelayRequest) (draw : Nat)
        (chain : Blockchain) (balancer : LoadBalancer) (drawn : Application),
      gateway.repository.chain request.chainName = .ok chain →
      gateway.repository.balancer request.balancerId = .ok balancer →
      balancer.redirect = false →
      (resolveAffinity state request chain balancer).preference.application = "" →
      balancer.applications[draw % balancer.applications.length]? = some drawn →
      ∃ application, Resolved gateway state request (.balancer draw) chain application
          (withChosen (resolveAffinity state request chain balancer) application) ∧
        Selects Application.id balancer.applications drawn application ∧
        (application = drawn ↔
          (∀ other ∈ balancer.applications, other.id ≠ "") ∨
            FirstNameless Application.id balancer.applications drawn) := by
  constructor
  · intro gateway backend state route request chain application details obtained session first
      answer hresolved hempty hobtained hsession hfirst hanswer
    obtain ⟨relay, hrelays, hsame, hselects⟩ :=
      exists_relay_of_empty hresolved hempty hobtained hsession hfirst hanswer
    exact ⟨relay, hrelays, hsame, hselects, hselects.eq_fallback_iff⟩
  · intro gateway state request draw chain balancer drawn hchain hbalancer hredirect hempty hdrawn
    obtain ⟨application, hresolved, hselects⟩ :=
      exists_resolved_of_empty hchain hbalancer hredirect hempty hdrawn
    exact ⟨application, hresolved, hselects, hselects.eq_fallback_iff⟩

/-! ## A nameless node and a nameless application -/

/-- A gateway with a nameless application behind another one in the pool of a load balancer. -/
def namelessly : Gateway :=
  ofConfig {} (.ofDocuments [{ id := "a" }, { id := "" }] [{ id := "0001" }]
    [{ id := "lb", applicationIds := ["a", ""] }])

/-- The load balancer of this gateway. -/
def namelessPool : LoadBalancer := { id := "lb", applications := [{ id := "a" }, { id := "" }] }

/-- A session with a nameless node behind another one. -/
def namelessSession : Session := { key := "s", nodes := [{ address := "n" }, { address := "" }] }

/-- The answer to a request of a caller that has no preferences and draws the first application. -/
def namelessAnswer : Except Fault (Answer Unit Unit) :=
  namelessly.handle (refusing ["n", ""]) (.start {} () 0) (.balancer 0) calling

theorem namelessly_chain :
    namelessly.repository.chain calling.chainName = .ok { id := "0001" } := by
  decide +kernel

theorem namelessly_balancer :
    namelessly.repository.balancer calling.balancerId = .ok namelessPool := by
  decide +kernel

/-- The caller has no preferences, and the second application of the pool serves it. -/
theorem namelessly_resolved :
    Resolved namelessly (.start {} () 0 : State Unit) calling (.balancer 0) { id := "0001" }
      { id := "" } (withChosen {} { id := "" }) := by
  have hdetails : resolveAffinity (.start {} () 0 : State Unit) calling { id := "0001" }
      namelessPool = {} := rfl
  rw [← hdetails]
  exact .balancer namelessly_chain namelessly_balancer rfl rfl

/-- Its session is the one with the nameless node. -/
theorem namelessly_obtains : ∃ obtained,
    Obtains (refusing ["n", ""]) (.start {} () 0) { id := "" } { id := "0001" } obtained ∧
      obtained.result = .ok namelessSession := by
  have hcomputed : (session (refusing ["n", ""]) (.start {} () 0) "" "0001").toOption.map
      (fun obtained => obtained.result) = some (.ok namelessSession) := by
    decide +kernel
  obtain ⟨obtained, hobtained, hsession⟩ := Option.map_eq_some_iff.mp hcomputed
  exact ⟨obtained, toOption_eq_some_iff.mp hobtained, hsession⟩

/-- The general statement at this caller: its relay goes to a nameless node, and a nameless
application serves it. -/
theorem empty_preference_selects_nameless :
    (∃ answer relay, namelessAnswer = .ok answer ∧ relaysOf answer.events = [relay] ∧
      relay.session = namelessSession ∧ relay.node.address = "") ∧
    ∃ application, Resolved namelessly (.start {} () 0) calling (.balancer 0) { id := "0001" }
        application (withChosen {} application) ∧
      application.id = "" := by
  obtain ⟨hnode, happlication⟩ := empty_preference_selects (σ := Unit)
  constructor
  · obtain ⟨obtained, hobtained, hsession⟩ := namelessly_obtains
    have hanswered : namelessAnswer.toOption.isSome = true := by decide +kernel
    obtain ⟨answer, hanswer⟩ := Option.isSome_iff_exists.mp hanswered
    rw [toOption_eq_some_iff] at hanswer
    obtain ⟨relay, hrelays, hsame, hselects, -⟩ := hnode _ _ _ _ _ _ _ _ _ _ _ _
      namelessly_resolved rfl hobtained hsession rfl hanswer
    have hmem : ({ address := "" } : Node) ∈ namelessSession.nodes := by decide
    exact ⟨answer, relay, hanswer, hrelays, hsame, hselects.nameOf_eq_empty hmem rfl⟩
  · obtain ⟨application, hresolved, hselects, -⟩ := happlication namelessly (.start {} () 0) calling
      0 _ _ { id := "a" } namelessly_chain namelessly_balancer rfl rfl rfl
    have hmem : ({ id := "" } : Application) ∈ namelessPool.applications := by decide
    exact ⟨application, hresolved, hselects.nameOf_eq_empty hmem rfl⟩

/-- Without a preference the relay does not go to the first node of its session, and the request is
not served by the application that was drawn. -/
theorem nameless_taken :
    (∃ details obtained answer relay,
      Resolved namelessly (.start {} () 0) calling (.balancer 0) { id := "0001" } { id := "" }
        details ∧
      details.preference.node = "" ∧
      Obtains (refusing ["n", ""]) (.start {} () 0) { id := "" } { id := "0001" } obtained ∧
      obtained.result = .ok relay.session ∧
      relay.session.firstNode? = some { address := "n" } ∧
      namelessAnswer = .ok answer ∧ relaysOf answer.events = [relay] ∧
      relay.node ≠ { address := "n" }) ∧
    (resolveAffinity (.start {} () 0 : State Unit) calling { id := "0001" }
      namelessPool).preference.application = "" ∧
    namelessPool.applications[0 % namelessPool.applications.length]? = some { id := "a" } ∧
    chooseApplication namelessPool "" 0 = .ok { id := "" } := by
  refine ⟨?_, rfl, rfl, rfl⟩
  -- only the relay of the answer is computed, the rest is read off how the request ends
  have hcomputed : namelessAnswer.toOption.map (fun answer => (relaysOf answer.events).map
      fun relay => (relay.session, relay.node)) = some [(namelessSession, { address := "" })] := by
    decide +kernel
  obtain ⟨answer, hanswer, hrelays⟩ := Option.map_eq_some_iff.mp hcomputed
  obtain ⟨relay, rest, hrelays, hrelay, hrest⟩ := List.map_eq_cons_iff.mp hrelays
  obtain rfl := List.map_eq_nil_iff.mp hrest
  obtain ⟨hsame, hnode⟩ := Prod.mk.inj hrelay
  obtain ⟨obtained, hobtained, hsession⟩ := namelessly_obtains
  refine ⟨_, obtained, answer, relay, namelessly_resolved, rfl, hobtained, ?_, ?_,
    toOption_eq_some_iff.mp hanswer, hrelays, ?_⟩
  · rw [hsame, hsession]
  · rw [hsame]
    rfl
  · rw [hnode]
    decide

end Gateway

end ChainGateway
