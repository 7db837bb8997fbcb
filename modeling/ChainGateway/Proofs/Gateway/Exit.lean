import ChainGateway.Gateway
import ChainGateway.Proofs.Except

/-!
# The exits of a request

A request runs through a fixed order of steps and ends at the first one that fails.  `Exit` lists
all the ways in which it can end: for each the conditions that lead there, the whole answer, the
relay that was handed over and the report that was made, if any.  `handle_exit` says that there
is no other way.  A request without an answer has passed the clock or a counter; `Overflow` lists
where, and `handle_eq_error_iff` says that this list is exact.  What is said about all requests
is then said by cases on their exits.
-/

namespace ChainGateway

open Affinity (Cache Details Outcome)

/-- The two ways in which a request reaches the gateway; `draw` is the random choice among the
applications of a pool. -/
inductive Route where
  | application
  | balancer (draw : Nat)
  deriving DecidableEq

/-- The relays among the events, in order. -/
def relaysOf (events : List Event) : List Relay :=
  events.filterMap fun event =>
    match event with
    | .relayed relay => some relay
    | .dispatched _ _ => none

@[simp] theorem relaysOf_append (first second : List Event) :
    relaysOf (first ++ second) = relaysOf first ++ relaysOf second :=
  List.filterMap_append

@[simp] theorem relaysOf_relayed (relay : Relay) : relaysOf [.relayed relay] = [relay] := rfl

namespace Gateway

variable {σ : Type}

/-- Handles a request on its route. -/
def handle (gateway : Gateway) (backend : Backend σ) (state : State σ) (route : Route)
    (request : RelayRequest) : Except Fault (Answer σ Unit) :=
  match route with
  | .application => gateway.relayForApplication backend state request
  | .balancer draw => gateway.relayForBalancer backend draw state request

/-- The request ends with an error before a session is asked for. -/
inductive Refused (gateway : Gateway) (request : RelayRequest) : Route → Error → Prop
  | application {error : Error}
      (happlication : gateway.repository.application request.applicationId = .error error) :
      Refused gateway request .application error
  | applicationChain {application : Application} {error : Error}
      (happlication : gateway.repository.application request.applicationId = .ok application)
      (hchain : gateway.repository.chain request.chainName = .error error) :
      Refused gateway request .application error
  | balancerChain {draw : Nat} {error : Error}
      (hchain : gateway.repository.chain request.chainName = .error error) :
      Refused gateway request (.balancer draw) error
  | balancer {draw : Nat} {chain : Blockchain} {error : Error}
      (hchain : gateway.repository.chain request.chainName = .ok chain)
      (hbalancer : gateway.repository.balancer request.balancerId = .error error) :
      Refused gateway request (.balancer draw) error
  | redirect {draw : Nat} {chain : Blockchain} {balancer : LoadBalancer}
      (hchain : gateway.repository.chain request.chainName = .ok chain)
      (hbalancer : gateway.repository.balancer request.balancerId = .ok balancer)
      (hredirect : balancer.redirect = true) :
      Refused gateway request (.balancer draw)
        (.notImplemented ("gigastake redirect for load balancer " ++ balancer.id))
  | emptyPool {draw : Nat} {chain : Blockchain} {balancer : LoadBalancer}
      (hchain : gateway.repository.chain request.chainName = .ok chain)
      (hbalancer : gateway.repository.balancer request.balancerId = .ok balancer)
      (hredirect : balancer.redirect = false) (hpool : balancer.applications = []) :
      Refused gateway request (.balancer draw) (.emptyPool balancer.id)

/-- The chain and the application that serve the request, and its affinity. -/
inductive Resolved (gateway : Gateway) (state : State σ) (request : RelayRequest) :
    Route → Blockchain → Application → Details → Prop
  | application {chain : Blockchain} {application : Application}
      (happlication : gateway.repository.application request.applicationId = .ok application)
      (hchain : gateway.repository.chain request.chainName = .ok chain) :
      Resolved gateway state request .application chain application {}
  | balancer {draw : Nat} {chain : Blockchain} {balancer : LoadBalancer}
      {application : Application}
      (hchain : gateway.repository.chain request.chainName = .ok chain)
      (hbalancer : gateway.repository.balancer request.balancerId = .ok balancer)
      (hredirect : balancer.redirect = false)
      (hchosen : chooseApplication balancer
        (resolveAffinity state request chain balancer).preference.application draw =
          .ok application) :
      Resolved gateway state request (.balancer draw) chain application
        (withChosen (resolveAffinity state request chain balancer) application)

/-- The session that the cache or the dispatch service gives for an application on a chain. -/
def Obtains (backend : Backend σ) (state : State σ) (application : Application)
    (chain : Blockchain) (obtained : Answer σ Session) : Prop :=
  session backend state application.credentials.applicationKey chain.id = .ok obtained

/-- What is answered to a relay that is handed over. -/
def answered (backend : Backend σ) (state : State σ) (relay : Relay) : Except Error RelayAnswer :=
  (backend.relay state.services relay).1.outcome

/-- The state after a relay was handed over. -/
def afterRelay (backend : Backend σ) (state : State σ) (relay : Relay) : State σ :=
  let (reply, services) := backend.relay state.services relay
  { state with services, now := state.now + reply.delay }

@[simp] theorem affinity_afterRelay (backend : Backend σ) (state : State σ) (relay : Relay) :
    (afterRelay backend state relay).affinity = state.affinity := rfl

/-- The outcome to report for an answer. -/
def outcomeOf : Except Error RelayAnswer → Outcome
  | .ok _ => .success
  | .error _ => .failure

/-- All the ways in which a request can end. -/
inductive Exit (gateway : Gateway) (backend : Backend σ) (state : State σ) (route : Route)
    (request : RelayRequest) :
    Answer σ Unit → Option Relay → Option (Details × Outcome) → Prop
  | refused {error : Error} (hrefused : Refused gateway request route error) :
      Exit gateway backend state route request { result := .error error, state } none none
  | unobtained {chain : Blockchain} {application : Application} {details : Details}
      {obtained : Answer σ Session} {error : Error} {after : State σ}
      (hresolved : Resolved gateway state request route chain application details)
      (hobtained : Obtains backend state application chain obtained)
      (hsession : obtained.result = .error error)
      (hreport : report obtained.state details .failure = .ok after) :
      Exit gateway backend state route request
        { result := .error error, state := after, events := obtained.events }
        none (some (details, .failure))
  | nodeless {chain : Blockchain} {application : Application} {details : Details}
      {obtained : Answer σ Session} {session : Session}
      (hresolved : Resolved gateway state request route chain application details)
      (hobtained : Obtains backend state application chain obtained)
      (hsession : obtained.result = .ok session) (hnodes : session.nodes = []) :
      Exit gateway backend state route request
        { result := .error .emptySession, state := obtained.state, events := obtained.events }
        none none
  | relayed {chain : Blockchain} {application : Application} {details : Details}
      {obtained : Answer σ Session} {session : Session} {node : Node} {relay : Relay}
      {after : State σ}
      (hresolved : Resolved gateway state request route chain application details)
      (hobtained : Obtains backend state application chain obtained)
      (hsession : obtained.result = .ok session)
      (hnode : chooseNode session details.preference.node = .ok node)
      (hrelay : relay = relayFor gateway request chain application session node)
      (hreport : report (afterRelay backend obtained.state relay)
        (withServing details application node)
        (outcomeOf (answered backend obtained.state relay)) = .ok after) :
      Exit gateway backend state route request
        { result := (answered backend obtained.state relay).map fun _ => ()
          state := after, events := obtained.events ++ [.relayed relay] }
        (some relay)
        (some (withServing details application node,
          outcomeOf (answered backend obtained.state relay)))

/-! ## There is no other exit -/

theorem applicationKey_ofApplication (application : Application) (plan : Plan) :
    (Token.ofApplication application plan).applicationKey =
      application.credentials.applicationKey := by
  cases plan <;> rfl

theorem chooseNode_eq_error_iff {session : Session} {preferred : String} {error : Error} :
    chooseNode session preferred = .error error ↔ session.nodes = [] ∧ error = .emptySession := by
  unfold chooseNode
  cases hnode : (session.node? preferred).or session.firstNode? with
  | none =>
      have hfirst : session.nodes = [] :=
        List.head?_eq_none_iff.mp (Option.or_eq_none_iff.mp hnode).2
      simp [hfirst, eq_comm]
  | some node =>
      have hne : session.nodes ≠ [] := by
        intro hnil
        simp [Session.node?, Session.firstNode?, hnil] at hnode
      simp [hne]

/-- Only an empty pool leaves nothing to choose. -/
theorem chooseApplication_eq_error_iff {balancer : LoadBalancer} {preferred : String} {draw : Nat}
    {error : Error} :
    chooseApplication balancer preferred draw = .error error ↔
      balancer.applications = [] ∧ error = .emptyPool balancer.id := by
  unfold chooseApplication
  cases hpreferred : balancer.application? preferred with
  | some application =>
      have hne : balancer.applications ≠ [] := by
        intro hnil
        simp [LoadBalancer.application?, hnil] at hpreferred
      simp [hne]
  | none =>
      cases hdrawn : balancer.applications[draw % balancer.applications.length]? with
      | some application =>
          have hne : balancer.applications ≠ [] := by
            intro hnil
            simp [hnil] at hdrawn
          simp [hne]
      | none =>
          -- the draw is taken modulo the size of the pool, so the pool is empty
          have hnil : balancer.applications = [] := by
            refine List.length_eq_zero_iff.mp (Nat.eq_zero_of_not_pos fun hpos => ?_)
            have := List.getElem?_eq_none_iff.mp hdrawn
            exact absurd (Nat.mod_lt draw hpos) (Nat.not_lt.mpr this)
          simp [hnil, eq_comm]

theorem chooseApplication_mem {balancer : LoadBalancer} {preferred : String} {draw : Nat}
    {application : Application}
    (hchosen : chooseApplication balancer preferred draw = .ok application) :
    application ∈ balancer.applications := by
  unfold chooseApplication at hchosen
  split at hchosen
  · next hpreferred =>
      cases hchosen
      exact List.mem_of_find?_eq_some hpreferred
  · split at hchosen
    · next hdrawn =>
        cases hchosen
        exact List.mem_of_getElem? hdrawn
    · cases hchosen

theorem chooseNode_mem {session : Session} {preferred : String} {node : Node}
    (hnode : chooseNode session preferred = .ok node) : node ∈ session.nodes := by
  unfold chooseNode at hnode
  split at hnode
  · next chosen hchosen =>
      cases hnode
      rcases Option.or_eq_some_iff.mp hchosen with hpreferred | ⟨-, hfirst⟩
      · exact List.mem_of_find?_eq_some hpreferred
      · exact List.mem_of_head? hfirst
  · cases hnode

/-- Hands a relay over and reports its outcome. -/
def handOver (backend : Backend σ) (state : State σ) (details : Details) (relay : Relay)
    (events : List Event) : Except Fault (Answer σ Unit) :=
  (report (afterRelay backend state relay) details
    (outcomeOf (answered backend state relay))).map fun after =>
      { result := (answered backend state relay).map fun _ => ()
        state := after, events := events ++ [.relayed relay] }

/-- The steps of a delivery, one after another. -/
theorem deliver_eq (gateway : Gateway) (backend : Backend σ) (state : State σ)
    (request : RelayRequest) (chain : Blockchain) (application : Application)
    (details : Details) :
    gateway.deliver backend state request chain application details =
      session backend state application.credentials.applicationKey chain.id >>= fun obtained =>
        match obtained.result with
        | .error error =>
            (report obtained.state details .failure).map fun after =>
              { result := .error error, state := after, events := obtained.events }
        | .ok session =>
            match chooseNode session details.preference.node with
            | .error error =>
                .ok { result := .error error, state := obtained.state,
                      events := obtained.events }
            | .ok node =>
                handOver backend obtained.state (withServing details application node)
                  (relayFor gateway request chain application session node)
                  obtained.events := by
  unfold deliver handOver answered
  dsimp only
  rw [applicationKey_ofApplication]
  congr 1
  funext obtained
  cases obtained.result with
  | error error => rfl
  | ok session =>
      dsimp only
      cases chooseNode session details.preference.node with
      | error error => rfl
      | ok node =>
          -- The two ways to report differ in the outcome only.
          cases houtcome : (backend.relay obtained.state.services
              (relayFor gateway request chain application session node)).1.outcome with
          | error error =>
              simp only [houtcome]
              rfl
          | ok answer =>
              simp only [houtcome]
              rfl

/-- Once a request is resolved, delivering it ends at one of the exits. -/
theorem deliver_exit {gateway : Gateway} {backend : Backend σ} {state : State σ} {route : Route}
    {request : RelayRequest} {chain : Blockchain} {application : Application} {details : Details}
    {answer : Answer σ Unit}
    (hresolved : Resolved gateway state request route chain application details)
    (hanswer : gateway.deliver backend state request chain application details = .ok answer) :
    ∃ relay? report?, Exit gateway backend state route request answer relay? report? := by
  rw [deliver_eq] at hanswer
  obtain ⟨obtained, hobtained, hanswer⟩ := bind_eq_ok_iff.mp hanswer
  split at hanswer
  · next error hsession =>
      obtain ⟨after, hreport, rfl⟩ := map_eq_ok_iff.mp hanswer
      exact ⟨_, _, .unobtained hresolved hobtained hsession hreport⟩
  · next session hsession =>
      split at hanswer
      · next error hnode =>
          obtain ⟨hnodes, rfl⟩ := chooseNode_eq_error_iff.mp hnode
          cases hanswer
          exact ⟨_, _, .nodeless hresolved hobtained hsession hnodes⟩
      · next node hnode =>
          obtain ⟨after, hreport, rfl⟩ := map_eq_ok_iff.mp hanswer
          exact ⟨_, _, .relayed hresolved hobtained hsession hnode rfl hreport⟩

/-- A request is either refused, or resolved and then delivered. -/
theorem handle_cases (gateway : Gateway) (backend : Backend σ) (state : State σ) (route : Route)
    (request : RelayRequest) :
    (∃ error, Refused gateway request route error ∧
      gateway.handle backend state route request = .ok { result := .error error, state }) ∨
    ∃ chain application details,
      Resolved gateway state request route chain application details ∧
      gateway.handle backend state route request =
        gateway.deliver backend state request chain application details := by
  cases route with
  | application =>
      simp only [handle, relayForApplication, refuse]
      cases happlication : gateway.repository.application request.applicationId with
      | error error => exact Or.inl ⟨error, .application happlication, rfl⟩
      | ok application =>
          cases hchain : gateway.repository.chain request.chainName with
          | error error => exact Or.inl ⟨error, .applicationChain happlication hchain, rfl⟩
          | ok chain => exact Or.inr ⟨chain, application, {}, .application happlication hchain, rfl⟩
  | balancer draw =>
      simp only [handle, relayForBalancer, refuse]
      cases hchain : gateway.repository.chain request.chainName with
      | error error => exact Or.inl ⟨error, .balancerChain hchain, rfl⟩
      | ok chain =>
          cases hbalancer : gateway.repository.balancer request.balancerId with
          | error error => exact Or.inl ⟨error, .balancer hchain hbalancer, rfl⟩
          | ok balancer =>
              dsimp only
              -- a redirecting balancer is refused before its pool is looked at
              cases hredirect : balancer.redirect with
              | true => exact Or.inl ⟨_, .redirect hchain hbalancer hredirect, rfl⟩
              | false =>
                  cases hchosen : chooseApplication balancer
                      (resolveAffinity state request chain balancer).preference.application
                      draw with
                  | error error =>
                      obtain ⟨hpool, rfl⟩ := chooseApplication_eq_error_iff.mp hchosen
                      exact Or.inl ⟨_, .emptyPool hchain hbalancer hredirect hpool, rfl⟩
                  | ok application =>
                      exact Or.inr ⟨chain, application, _,
                        .balancer hchain hbalancer hredirect hchosen, rfl⟩

/-- Every request that gives an answer ends at one of the exits. -/
theorem handle_exit {gateway : Gateway} {backend : Backend σ} {state : State σ} {route : Route}
    {request : RelayRequest} {answer : Answer σ Unit}
    (hanswer : gateway.handle backend state route request = .ok answer) :
    ∃ relay? report?, Exit gateway backend state route request answer relay? report? := by
  rcases handle_cases gateway backend state route request with
    ⟨error, hrefused, heq⟩ | ⟨chain, application, details, hresolved, heq⟩
  · rw [heq] at hanswer
    cases hanswer
    exact ⟨none, none, .refused hrefused⟩
  · rw [heq] at hanswer
    exact deliver_exit hresolved hanswer

/-! ## What an exit leaves behind -/

/-- Obtaining a session leaves the affinity cache alone and hands no relay over. -/
theorem session_frame {backend : Backend σ} {state : State σ} {publicKey chain : String}
    {obtained : Answer σ Session}
    (hobtained : session backend state publicKey chain = .ok obtained) :
    obtained.state.affinity = state.affinity ∧ relaysOf obtained.events = [] := by
  cases hlookup : state.sessions.lookup { publicKey, chain } state.now with
  | some session =>
      simp only [Gateway.session, hlookup] at hobtained
      cases hobtained
      exact ⟨rfl, rfl⟩
  | none =>
      simp only [session, hlookup] at hobtained
      split at hobtained
      · cases hobtained
        exact ⟨rfl, rfl⟩
      · obtain ⟨sessions, -, rfl⟩ := map_eq_ok_iff.mp hobtained
        exact ⟨rfl, rfl⟩

/-- A report changes the affinity cache only. -/
theorem report_frame {state after : State σ} {details : Details} {outcome : Outcome}
    (hreport : report state details outcome = .ok after) :
    (∃ reported, state.affinity.report details outcome state.now = .ok (after.affinity, reported)) ∧
      after.sessions = state.sessions ∧ after.services = state.services ∧
      after.now = state.now := by
  obtain ⟨⟨affinity, reported⟩, hcache, rfl⟩ := map_eq_ok_iff.mp hreport
  exact ⟨⟨reported, hcache⟩, rfl, rfl, rfl⟩

/-- The report, if there is one, leads from one affinity cache to the other. -/
def LeadsTo (before : Cache) (now : Instant) (report? : Option (Details × Outcome))
    (after : Cache) : Prop :=
  match report? with
  | none => after = before
  | some (details, outcome) => ∃ reported, before.report details outcome now = .ok (after, reported)

namespace Exit

variable {gateway : Gateway} {backend : Backend σ} {state : State σ} {route : Route}
  {request : RelayRequest} {answer : Answer σ Unit} {relay? : Option Relay}
  {report? : Option (Details × Outcome)}

/-- The relays of the answer are the one that the exit names, if any. -/
theorem relays (hexit : Exit gateway backend state route request answer relay? report?) :
    relaysOf answer.events = relay?.toList := by
  cases hexit with
  | refused hrefused => rfl
  | unobtained hresolved hobtained hsession hreport => exact (session_frame hobtained).2
  | nodeless hresolved hobtained hsession hnodes => exact (session_frame hobtained).2
  | relayed hresolved hobtained hsession hnode hrelay hreport =>
      simp [(session_frame hobtained).2]

/-- The affinity cache changes by the report that the exit names, and not without one. -/
theorem leadsTo (hexit : Exit gateway backend state route request answer relay? report?) :
    LeadsTo state.affinity answer.state.now report? answer.state.affinity := by
  cases hexit with
  | refused hrefused => rfl
  | nodeless hresolved hobtained hsession hnodes => exact (session_frame hobtained).1
  | unobtained hresolved hobtained hsession hreport =>
      obtain ⟨⟨reported, hcache⟩, -, -, hnow⟩ := report_frame hreport
      rw [(session_frame hobtained).1] at hcache
      exact ⟨reported, by rw [hnow]; exact hcache⟩
  | relayed hresolved hobtained hsession hnode hrelay hreport =>
      obtain ⟨⟨reported, hcache⟩, -, -, hnow⟩ := report_frame hreport
      rw [affinity_afterRelay, (session_frame hobtained).1] at hcache
      exact ⟨reported, by rw [hnow]; exact hcache⟩

end Exit

/-! ## Overflows -/

/-- All the ways in which a request can pass the clock or a counter: the session cannot be kept,
or the report cannot be made. -/
inductive Overflow (gateway : Gateway) (backend : Backend σ) (state : State σ) (route : Route)
    (request : RelayRequest) : Fault → Prop
  | session {chain : Blockchain} {application : Application} {details : Details} {fault : Fault}
      (hresolved : Resolved gateway state request route chain application details)
      (hsession : Gateway.session backend state application.credentials.applicationKey chain.id =
        .error fault) :
      Overflow gateway backend state route request fault
  | unobtained {chain : Blockchain} {application : Application} {details : Details}
      {obtained : Answer σ Session} {error : Error} {fault : Fault}
      (hresolved : Resolved gateway state request route chain application details)
      (hobtained : Obtains backend state application chain obtained)
      (hsession : obtained.result = .error error)
      (hreport : report obtained.state details .failure = .error fault) :
      Overflow gateway backend state route request fault
  | relayed {chain : Blockchain} {application : Application} {details : Details}
      {obtained : Answer σ Session} {session : Session} {node : Node} {relay : Relay}
      {fault : Fault}
      (hresolved : Resolved gateway state request route chain application details)
      (hobtained : Obtains backend state application chain obtained)
      (hsession : obtained.result = .ok session)
      (hnode : chooseNode session details.preference.node = .ok node)
      (hrelay : relay = relayFor gateway request chain application session node)
      (hreport : report (afterRelay backend obtained.state relay)
        (withServing details application node)
        (outcomeOf (answered backend obtained.state relay)) = .error fault) :
      Overflow gateway backend state route request fault

theorem deliver_overflow {gateway : Gateway} {backend : Backend σ} {state : State σ}
    {route : Route} {request : RelayRequest} {chain : Blockchain} {application : Application}
    {details : Details} {fault : Fault}
    (hresolved : Resolved gateway state request route chain application details)
    (hfault : gateway.deliver backend state request chain application details = .error fault) :
    Overflow gateway backend state route request fault := by
  rw [deliver_eq] at hfault
  rcases bind_eq_error_iff.mp hfault with hsession | ⟨obtained, hobtained, hfault⟩
  · exact .session hresolved hsession
  · split at hfault
    · next error hsession =>
        exact .unobtained hresolved hobtained hsession (map_eq_error_iff.mp hfault)
    · next session hsession =>
        split at hfault
        · cases hfault
        · next node hnode =>
            exact .relayed hresolved hobtained hsession hnode rfl (map_eq_error_iff.mp hfault)

theorem Resolved.handle_eq {gateway : Gateway} {state : State σ} {route : Route}
    {request : RelayRequest} {chain : Blockchain} {application : Application} {details : Details}
    (hresolved : Resolved gateway state request route chain application details)
    (backend : Backend σ) :
    gateway.handle backend state route request =
      gateway.deliver backend state request chain application details := by
  cases hresolved with
  | application happlication hchain =>
      simp only [handle, relayForApplication, happlication, hchain]
  | balancer hchain hbalancer hredirect hchosen =>
      simp only [handle, relayForBalancer, hchain, hbalancer, hredirect, hchosen,
        Bool.false_eq_true, if_false]

/-- A request gives no answer exactly when it overflows. -/
theorem handle_eq_error_iff {gateway : Gateway} {backend : Backend σ} {state : State σ}
    {route : Route} {request : RelayRequest} {fault : Fault} :
    gateway.handle backend state route request = .error fault ↔
      Overflow gateway backend state route request fault := by
  constructor
  · intro hfault
    rcases handle_cases gateway backend state route request with
      ⟨error, hrefused, heq⟩ | ⟨chain, application, details, hresolved, heq⟩
    · rw [heq] at hfault
      cases hfault
    · rw [heq] at hfault
      exact deliver_overflow hresolved hfault
  · -- Each overflow names the step it happens at, so the steps before it can be run.
    intro hoverflow
    cases hoverflow with
    | session hresolved hsession =>
        rw [hresolved.handle_eq, deliver_eq, hsession]
        rfl
    | unobtained hresolved hobtained hsession hreport =>
        rw [hresolved.handle_eq, deliver_eq]
        refine bind_eq_error_iff.mpr (Or.inr ⟨_, hobtained, ?_⟩)
        simp only [hsession, hreport]
        rfl
    | relayed hresolved hobtained hsession hnode hrelay hreport =>
        subst hrelay
        rw [hresolved.handle_eq, deliver_eq]
        refine bind_eq_error_iff.mpr (Or.inr ⟨_, hobtained, ?_⟩)
        simp only [hsession, hnode, handOver, hreport]
        rfl

end Gateway

end ChainGateway
