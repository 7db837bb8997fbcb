import ChainGateway.FrontDoor.Request
import ChainGateway.Proofs.Gateway.Accounting
import ChainGateway.Proofs.Gateway.Stickiness

/-!
# How HTTP requests are answered

A request passes through stages, in this order: its method, its path, its body, what it names, the
redirect and the pool of its load balancer, its session, the nodes of the session and the relay.
`Fails` says of each stage when it fails, if it is reached, and with which error; the same error may
come from different stages, since the services may fail with any.  A request is answered with
"relay sent" exactly when one relay was handed over and served, and otherwise with the error of the
first stage that fails.  If this stage comes before the session, nothing was asked for and nothing
has changed (`outcome_law`).

## Strategy

A stage that fails first has all stages before it passed, so the request can be followed up to it
and no further (`FirstFails.answered`).  The other direction needs no order: a request that was not
served has failed at some stage (`served_or_fails`), and so there is a first one
(`exists_firstFails`).
-/

namespace ChainGateway

namespace Gateway

variable {σ : Type} {gateway : Gateway} {backend : Backend σ} {state : State σ} {route : Route}
  {request : RelayRequest} {chain : Blockchain} {application : Application}
  {details : Affinity.Details} {obtained : Answer σ Session} {answer : Answer σ Unit}

/-- The answer to a request that is refused. -/
theorem Refused.handle_eq {error : Error} (hrefused : Refused gateway request route error)
    (backend : Backend σ) (state : State σ) :
    gateway.handle backend state route request = .ok { result := .error error, state } := by
  cases hrefused with
  | application happlication => simp only [handle, relayForApplication, happlication, refuse]
  | applicationChain happlication hchain =>
      simp only [handle, relayForApplication, happlication, hchain, refuse]
  | balancerChain hchain => simp only [handle, relayForBalancer, hchain, refuse]
  | balancer hchain hbalancer => simp only [handle, relayForBalancer, hchain, hbalancer, refuse]
  | redirect hchain hbalancer hredirect =>
      simp only [handle, relayForBalancer, hchain, hbalancer, hredirect, if_true, refuse]
  | emptyPool hchain hbalancer hredirect hpool =>
      simp only [handle, relayForBalancer, hchain, hbalancer, hredirect, Bool.false_eq_true,
        if_false, chooseApplication_eq_error_iff.mpr ⟨hpool, rfl⟩, refuse]

/-- The result of a request that is resolved, from what becomes of its session, its node and its
relay. -/
theorem Resolved.result_eq
    (hresolved : Resolved gateway state request route chain application details)
    (hobtained : Obtains backend state application chain obtained)
    (hanswer : gateway.handle backend state route request = .ok answer) :
    answer.result =
      (obtained.result >>= fun session =>
        chooseNode session details.preference.node >>= fun node =>
          (answered backend obtained.state
            (relayFor gateway request chain application session node)).map fun _ => ()) := by
  rw [hresolved.handle_eq, deliver_eq, hobtained] at hanswer
  obtain ⟨_, hsame, hanswer⟩ := bind_eq_ok_iff.mp hanswer
  cases hsame
  -- each of the three parts ends the request with its own error, or goes on to the next one
  cases hresult : obtained.result with
  | error error =>
      rw [hresult] at hanswer
      obtain ⟨after, -, rfl⟩ := map_eq_ok_iff.mp hanswer
      rfl
  | ok session =>
      simp only [hresult] at hanswer
      show answer.result = chooseNode session details.preference.node >>= _
      cases hnode : chooseNode session details.preference.node with
      | error error =>
          rw [hnode] at hanswer
          cases hanswer
          rfl
      | ok node =>
          rw [hnode] at hanswer
          obtain ⟨after, -, rfl⟩ := map_eq_ok_iff.mp hanswer
          rfl

end Gateway

namespace FrontDoor

open Gateway (Resolved Refused Obtains Sent answered chooseNode relayFor)

variable {σ : Type} {gateway : Gateway} {backend : Backend σ} {draw : Nat} {state : State σ}
  {request : Request} {handled : Handled σ}

/-! ## Stages -/

/-- The stages of a request, in order. -/
inductive Stage where
  | method
  | path
  | body
  /-- The application and the chain, or the chain and the load balancer, are looked up. -/
  | lookup
  | redirect
  | pool
  | session
  | nodes
  | relay
  deriving DecidableEq

def Stage.position : Stage → Nat
  | .method => 0
  | .path => 1
  | .body => 2
  | .lookup => 3
  | .redirect => 4
  | .pool => 5
  | .session => 6
  | .nodes => 7
  | .relay => 8

theorem Stage.method_first {stage : Stage} (hother : stage ≠ .method) :
    Stage.method.position < stage.position := by
  cases stage with
  | method => exact absurd rfl hother
  | path | body | lookup | redirect | pool | session | nodes | relay => decide

/-- The route of a request to the gateway. -/
def routeOf (draw : Nat) : Target → Route
  | .application .. => .application
  | .balancer .. => .balancer draw

/-- A request to the gateway names something that is not there. -/
inductive Missing (gateway : Gateway) (relay : RelayRequest) : Route → Error → Prop
  | application {error : Error}
      (happlication : gateway.repository.application relay.applicationId = .error error) :
      Missing gateway relay .application error
  | applicationChain {application : Application} {error : Error}
      (happlication : gateway.repository.application relay.applicationId = .ok application)
      (hchain : gateway.repository.chain relay.chainName = .error error) :
      Missing gateway relay .application error
  | balancerChain {draw : Nat} {error : Error}
      (hchain : gateway.repository.chain relay.chainName = .error error) :
      Missing gateway relay (.balancer draw) error
  | balancer {draw : Nat} {chain : Blockchain} {error : Error}
      (hchain : gateway.repository.chain relay.chainName = .ok chain)
      (hbalancer : gateway.repository.balancer relay.balancerId = .error error) :
      Missing gateway relay (.balancer draw) error

/-- A stage fails with an error, if the request reaches it. -/
inductive Fails (gateway : Gateway) (backend : Backend σ) (draw : Nat) (state : State σ)
    (request : Request) : Stage → Error → Prop
  | method (hmethod : request.method ≠ acceptedMethod) :
      Fails gateway backend draw state request .method (.invalidMethod request.method)
  | path {error : Error} (hpath : Target.ofPath (pathOfUri request.uri) = .error error) :
      Fails gateway backend draw state request .path error
  | body {error : Error} (hbody : Payload.ofBody request.body = .error error) :
      Fails gateway backend draw state request .body error
  | lookup {target : Target} {relay : RelayRequest} {error : Error}
      (hread : read request = .ok (target, relay))
      (hmissing : Missing gateway relay (routeOf draw target) error) :
      Fails gateway backend draw state request .lookup error
  | redirect {id path : String} {relay : RelayRequest} {balancer : LoadBalancer}
      (hread : read request = .ok (.balancer id path, relay))
      (hbalancer : gateway.repository.balancer relay.balancerId = .ok balancer)
      (hredirect : balancer.redirect = true) :
      Fails gateway backend draw state request .redirect
        (.notImplemented ("gigastake redirect for load balancer " ++ balancer.id))
  | pool {id path : String} {relay : RelayRequest} {balancer : LoadBalancer}
      (hread : read request = .ok (.balancer id path, relay))
      (hbalancer : gateway.repository.balancer relay.balancerId = .ok balancer)
      (hpool : balancer.applications = []) :
      Fails gateway backend draw state request .pool (.emptyPool balancer.id)
  | session {target : Target} {relay : RelayRequest} {chain : Blockchain}
      {application : Application} {details : Affinity.Details} {obtained : Answer σ Session}
      {error : Error} (hread : read request = .ok (target, relay))
      (hresolved : Resolved gateway state relay (routeOf draw target) chain application details)
      (hobtained : Obtains backend state application chain obtained)
      (hsession : obtained.result = .error error) :
      Fails gateway backend draw state request .session error
  | nodes {target : Target} {relay : RelayRequest} {chain : Blockchain}
      {application : Application} {details : Affinity.Details} {obtained : Answer σ Session}
      {session : Session} (hread : read request = .ok (target, relay))
      (hresolved : Resolved gateway state relay (routeOf draw target) chain application details)
      (hobtained : Obtains backend state application chain obtained)
      (hsession : obtained.result = .ok session) (hnodes : session.nodes = []) :
      Fails gateway backend draw state request .nodes .emptySession
  | relay {target : Target} {relay : RelayRequest} {chain : Blockchain}
      {application : Application} {details : Affinity.Details} {obtained : Answer σ Session}
      {session : Session} {node : Node} {error : Error}
      (hread : read request = .ok (target, relay))
      (hresolved : Resolved gateway state relay (routeOf draw target) chain application details)
      (hobtained : Obtains backend state application chain obtained)
      (hsession : obtained.result = .ok session)
      (hnode : chooseNode session details.preference.node = .ok node)
      (hreply : answered backend obtained.state
        (relayFor gateway relay chain application session node) = .error error) :
      Fails gateway backend draw state request .relay error

/-- The stage fails, and no stage before it does. -/
def FirstFails (gateway : Gateway) (backend : Backend σ) (draw : Nat) (state : State σ)
    (request : Request) (stage : Stage) (error : Error) : Prop :=
  Fails gateway backend draw state request stage error ∧
    ∀ earlier other, earlier.position < stage.position →
      ¬ Fails gateway backend draw state request earlier other

/-- Among the events is one relay, which belongs to the request, and its node has served it. -/
def Served (gateway : Gateway) (backend : Backend σ) (draw : Nat) (state : State σ)
    (request : Request) (events : List Event) : Prop :=
  ∃ target relay chain application details obtained handedOver reply,
    read request = .ok (target, relay) ∧
    Resolved gateway state relay (routeOf draw target) chain application details ∧
    Sent gateway backend state (routeOf draw target) relay chain application obtained handedOver ∧
    relaysOf events = [handedOver] ∧ answered backend obtained.state handedOver = .ok reply

/-- If any stage fails, there is one that fails first. -/
theorem exists_firstFails {stage : Stage} {error : Error}
    (hfails : Fails gateway backend draw state request stage error) :
    ∃ first other, FirstFails gateway backend draw state request first other := by
  induction hposition : stage.position using Nat.strongRecOn generalizing stage error with
  | ind position ih =>
      by_cases hearlier : ∃ earlier other, earlier.position < stage.position ∧
          Fails gateway backend draw state request earlier other
      · obtain ⟨earlier, other, hless, hother⟩ := hearlier
        exact ih _ (hposition ▸ hless) hother rfl
      · exact ⟨stage, error, hfails, fun earlier other hless hother =>
          hearlier ⟨earlier, other, hless, hother⟩⟩

/-! ## Reading a request -/

theorem read_eq (request : Request) :
    read request =
      if request.method = acceptedMethod then
        Target.ofPath (pathOfUri request.uri) >>= fun target =>
          (Payload.ofBody request.body).map fun payload =>
            (target, relayRequest target request payload)
      else .error (.invalidMethod request.method) := by
  unfold read
  rw [ite_not]
  split
  · cases Target.ofPath (pathOfUri request.uri) with
    | error error => rfl
    | ok target => cases Payload.ofBody request.body <;> rfl
  · rfl

/-- A request that cannot be read is answered with the error, and nothing has happened. -/
theorem handle_of_read_error {error : Error} (hsize : request.body.length ≤ bodyLimit)
    (hread : read request = .error error) :
    handle gateway backend draw state request = .ok { response := .ofError error, state } := by
  rw [handle, if_neg (Nat.not_lt.mpr hsize), hread]

/-- A request that can be read is handed to the gateway. -/
theorem handle_of_read {target : Target} {relay : RelayRequest}
    (hsize : request.body.length ≤ bodyLimit) (hread : read request = .ok (target, relay)) :
    handle gateway backend draw state request =
      (gateway.handle backend state (routeOf draw target) relay).map fun answer =>
        { response := .ofResult answer.result, state := answer.state,
          events := answer.events } := by
  rw [handle, if_neg (Nat.not_lt.mpr hsize), hread]
  cases target <;> rfl

/-! ## What is answered -/

theorem Missing.refused {relay : RelayRequest} {route : Route} {error : Error}
    (hmissing : Missing gateway relay route error) : Refused gateway relay route error := by
  cases hmissing with
  | application happlication => exact .application happlication
  | applicationChain happlication hchain => exact .applicationChain happlication hchain
  | balancerChain hchain => exact .balancerChain hchain
  | balancer hchain hbalancer => exact .balancer hchain hbalancer

/-- A request to a load balancer that passes the lookups has found its chain. -/
theorem exists_chain {id path : String} {relay : RelayRequest}
    (hread : read request = .ok (.balancer id path, relay))
    (hpassed : ∀ error, ¬ Fails gateway backend draw state request .lookup error) :
    ∃ chain, gateway.repository.chain relay.chainName = .ok chain := by
  cases hchain : gateway.repository.chain relay.chainName with
  | error error => exact absurd (.lookup hread (.balancerChain hchain)) (hpassed error)
  | ok chain => exact ⟨chain, rfl⟩

/-- A request that can be read is refused as the gateway refuses it. -/
theorem handle_of_refused {target : Target} {relay : RelayRequest} {error : Error}
    (hsize : request.body.length ≤ bodyLimit) (hread : read request = .ok (target, relay))
    (hrefused : Refused gateway relay (routeOf draw target) error) :
    handle gateway backend draw state request = .ok { response := .ofError error, state } := by
  rw [handle_of_read hsize hread, hrefused.handle_eq]
  rfl

/-- A request whose first failing stage comes before the session is refused. -/
theorem FirstFails.handle_eq {stage : Stage} {error : Error}
    (hfirst : FirstFails gateway backend draw state request stage error)
    (hsize : request.body.length ≤ bodyLimit)
    (hbefore : stage.position < Stage.session.position) :
    handle gateway backend draw state request = .ok { response := .ofError error, state } := by
  obtain ⟨hfails, hpassed⟩ := hfirst
  -- every later stage is reached with the accepted method only
  have hmethod : stage ≠ .method → request.method = acceptedMethod := by
    intro hlater
    by_cases haccepted : request.method = acceptedMethod
    · exact haccepted
    · exact absurd (.method haccepted) (hpassed .method _ (Stage.method_first hlater))
  cases hfails with
  | method hother => exact handle_of_read_error hsize (by rw [read_eq, if_neg hother])
  | path hpath =>
      refine handle_of_read_error hsize ?_
      rw [read_eq, if_pos (hmethod (by decide)), hpath]
      rfl
  -- the path is read before the body is looked at, and it did not fail
  | body hbody =>
      refine handle_of_read_error hsize ?_
      rw [read_eq, if_pos (hmethod (by decide)), hbody]
      cases hpath : Target.ofPath (pathOfUri request.uri) with
      | error error => exact absurd (.path hpath) (hpassed .path error (by decide))
      | ok target => rfl
  | lookup hread hmissing => exact handle_of_refused hsize hread hmissing.refused
  -- these stages are reached with a chain that is known
  | redirect hread hbalancer hredirect =>
      obtain ⟨chain, hchain⟩ := exists_chain hread fun error => hpassed .lookup error (by decide)
      exact handle_of_refused hsize hread (.redirect hchain hbalancer hredirect)
  | @pool id path relay balancer hread hbalancer hpool =>
      obtain ⟨chain, hchain⟩ := exists_chain hread fun error => hpassed .lookup error (by decide)
      cases hredirect : balancer.redirect with
      | true =>
          exact absurd (.redirect hread hbalancer hredirect) (hpassed .redirect _ (by decide))
      | false => exact handle_of_refused hsize hread (.emptyPool hchain hbalancer hredirect hpool)
  | session | nodes | relay => exact absurd hbefore (by decide)

/-- A request that is resolved is answered as its session, its node and its relay turn out. -/
theorem response_of_resolved {target : Target} {relay : RelayRequest} {chain : Blockchain}
    {application : Application} {details : Affinity.Details} {obtained : Answer σ Session}
    (hsize : request.body.length ≤ bodyLimit) (hread : read request = .ok (target, relay))
    (hresolved : Resolved gateway state relay (routeOf draw target) chain application details)
    (hobtained : Obtains backend state application chain obtained)
    (hhandled : handle gateway backend draw state request = .ok handled) :
    handled.response =
      .ofResult (obtained.result >>= fun session =>
        chooseNode session details.preference.node >>= fun node =>
          (answered backend obtained.state
            (relayFor gateway relay chain application session node)).map fun _ => ()) := by
  rw [handle_of_read hsize hread] at hhandled
  obtain ⟨answer, hanswer, rfl⟩ := map_eq_ok_iff.mp hhandled
  rw [hresolved.result_eq hobtained hanswer]

/-- A request is answered with the error of its first failing stage. -/
theorem FirstFails.response_eq {stage : Stage} {error : Error}
    (hfirst : FirstFails gateway backend draw state request stage error)
    (hsize : request.body.length ≤ bodyLimit)
    (hhandled : handle gateway backend draw state request = .ok handled) :
    handled.response = .ofError error := by
  by_cases hbefore : stage.position < Stage.session.position
  · -- up to the session the answer does not depend on the services
    rw [eq_of_eq_ok hhandled (hfirst.handle_eq hsize hbefore)]
  · cases hfirst.1 with
    | method | path | body | lookup | redirect | pool => exact absurd (by decide) hbefore
    | session hread hresolved hobtained hsession =>
        rw [response_of_resolved hsize hread hresolved hobtained hhandled, hsession]
        rfl
    | @nodes _ _ _ _ details _ session hread hresolved hobtained hsession hnodes =>
        have hnode : chooseNode session details.preference.node = .error .emptySession :=
          Gateway.chooseNode_eq_error_iff.mpr ⟨hnodes, rfl⟩
        rw [response_of_resolved hsize hread hresolved hobtained hhandled, hsession]
        simp only [bind, Except.bind, hnode]
        rfl
    | relay hread hresolved hobtained hsession hnode hreply =>
        rw [response_of_resolved hsize hread hresolved hobtained hhandled, hsession]
        simp only [bind, Except.bind, hnode, hreply]
        rfl

/-! ## Every request is served or fails -/

theorem fails_of_read_error {error : Error} (hread : read request = .error error) :
    ∃ stage, Fails gateway backend draw state request stage error := by
  rw [read_eq] at hread
  split at hread
  · rcases bind_eq_error_iff.mp hread with hpath | ⟨target, -, hbody⟩
    · exact ⟨.path, .path hpath⟩
    · exact ⟨.body, .body (map_eq_error_iff.mp hbody)⟩
  · next hmethod =>
      cases hread
      exact ⟨.method, .method hmethod⟩

theorem fails_of_refused {target : Target} {relay : RelayRequest} {error : Error}
    (hread : read request = .ok (target, relay))
    (hrefused : Refused gateway relay (routeOf draw target) error) :
    ∃ stage, Fails gateway backend draw state request stage error := by
  cases target with
  | application id path =>
      cases hrefused with
      | application happlication => exact ⟨.lookup, .lookup hread (.application happlication)⟩
      | applicationChain happlication hchain =>
          exact ⟨.lookup, .lookup hread (.applicationChain happlication hchain)⟩
  | balancer id path =>
      cases hrefused with
      | balancerChain hchain => exact ⟨.lookup, .lookup hread (.balancerChain hchain)⟩
      | balancer hchain hbalancer => exact ⟨.lookup, .lookup hread (.balancer hchain hbalancer)⟩
      | redirect _ hbalancer hredirect => exact ⟨.redirect, .redirect hread hbalancer hredirect⟩
      | emptyPool _ hbalancer _ hpool => exact ⟨.pool, .pool hread hbalancer hpool⟩

/-- A request that is answered has been served, or has failed at some stage. -/
theorem served_or_fails (hsize : request.body.length ≤ bodyLimit)
    (hhandled : handle gateway backend draw state request = .ok handled) :
    Served gateway backend draw state request handled.events ∨
      ∃ stage error, Fails gateway backend draw state request stage error := by
  cases hread : read request with
  | error error =>
      obtain ⟨stage, hfails⟩ := fails_of_read_error hread
      exact Or.inr ⟨stage, error, hfails⟩
  | ok parts =>
      obtain ⟨target, relay⟩ := parts
      rw [handle_of_read hsize hread] at hhandled
      obtain ⟨answer, hanswer, rfl⟩ := map_eq_ok_iff.mp hhandled
      obtain ⟨relay?, report?, hexit⟩ := Gateway.handle_exit hanswer
      have hrelays := hexit.relays
      -- each way in which a request can end is a stage at which it fails, but for the last one
      cases hexit with
      | refused hrefused =>
          obtain ⟨stage, hfails⟩ := fails_of_refused hread hrefused
          exact Or.inr ⟨stage, _, hfails⟩
      | unobtained hresolved hobtained hsession hreport =>
          exact Or.inr ⟨.session, _, .session hread hresolved hobtained hsession⟩
      | nodeless hresolved hobtained hsession hnodes =>
          exact Or.inr ⟨.nodes, _, .nodes hread hresolved hobtained hsession hnodes⟩
      | @relayed chain application details obtained session node handedOver after hresolved
          hobtained hsession hnode hrelay hreport =>
          cases hreply : answered backend obtained.state handedOver with
          | error error =>
              subst hrelay
              exact Or.inr ⟨.relay, error,
                .relay hread hresolved hobtained hsession hnode hreply⟩
          | ok reply =>
              subst hrelay
              exact Or.inl ⟨target, relay, chain, application, details, obtained, _, reply, hread,
                hresolved, hresolved.sent hobtained hsession hnode, hrelays, hreply⟩

/-- A request that was served is told so. -/
theorem response_of_served (hsize : request.body.length ≤ bodyLimit)
    (hhandled : handle gateway backend draw state request = .ok handled)
    (hserved : Served gateway backend draw state request handled.events) :
    handled.response = { status := 200, body := "relay sent" } := by
  obtain ⟨target, relay, chain, application, details, obtained, handedOver, reply, hread,
    hresolved, hsent, hrelays, hreply⟩ := hserved
  rw [handle_of_read hsize hread] at hhandled
  obtain ⟨answer, hanswer, rfl⟩ := map_eq_ok_iff.mp hhandled
  obtain ⟨relay?, report?, hexit⟩ := Gateway.handle_exit hanswer
  have hresult : answer.result = .ok () :=
    hexit.accounted.ok_iff.mpr
      ⟨chain, application, details, obtained, handedOver, reply, hresolved, hsent, hrelays, hreply⟩
  rw [hresult]
  rfl

/-- **The outcome of a request.**  A request whose body is not too large, and that does not overflow
the clock or a counter, is answered with "relay sent" exactly when one relay was handed over and
served.  Otherwise some stage fails, and the answer is the error of the first one that does.  If
this one comes before the session, nothing was asked for and the gateway is as it was. -/
theorem outcome_law (hsize : request.body.length ≤ bodyLimit)
    (hhandled : handle gateway backend draw state request = .ok handled) :
    (handled.response = { status := 200, body := "relay sent" } ↔
        Served gateway backend draw state request handled.events) ∧
      (¬ Served gateway backend draw state request handled.events →
        ∃ stage error, FirstFails gateway backend draw state request stage error ∧
          handled.response = { status := 400, body := error.message }) ∧
      ∀ stage error, FirstFails gateway backend draw state request stage error →
        handled.response = { status := 400, body := error.message } ∧
          (stage.position < Stage.session.position →
            handled.events = [] ∧ handled.state = state) := by
  -- every request that is not served fails somewhere, so it fails somewhere first
  have hfailed : ¬ Served gateway backend draw state request handled.events →
      ∃ stage error, FirstFails gateway backend draw state request stage error ∧
        handled.response = { status := 400, body := error.message } := by
    intro hnot
    obtain ⟨_, _, hfails⟩ := (served_or_fails hsize hhandled).resolve_left hnot
    obtain ⟨stage, error, hfirst⟩ := exists_firstFails hfails
    exact ⟨stage, error, hfirst, hfirst.response_eq hsize hhandled⟩
  refine ⟨⟨fun hresponse => ?_, response_of_served hsize hhandled⟩, hfailed,
    fun stage error hfirst => ⟨hfirst.response_eq hsize hhandled, fun hbefore => ?_⟩⟩
  · by_cases hserved : Served gateway backend draw state request handled.events
    · exact hserved
    · obtain ⟨stage, error, -, herror⟩ := hfailed hserved
      rw [hresponse] at herror
      cases herror
  · rw [eq_of_eq_ok hhandled (hfirst.handle_eq hsize hbefore)]
    exact ⟨rfl, rfl⟩

/-! ## Two requests -/

/-- Services with a session of one node, which serves every relay. -/
def serving : Backend Unit where
  dispatch _ _ _ := ({ outcome := .ok { key := "s", nodes := [{ address := "n" }] } }, ())
  relay _ _ := ({ outcome := .ok { response := "1" } }, ())

/-- A request for the chain `0001`. -/
def posted (uri : String) : Request where
  uri := uri
  body := Text.Utf8.encode "\x7b\"blockchainID\":\"0001\"\x7d"

theorem length_posted_le (uri : String) : (posted uri).body.length ≤ bodyLimit := by
  show (Text.Utf8.encode "\x7b\"blockchainID\":\"0001\"\x7d").length ≤ bodyLimit
  decide +kernel

/-- What is answered to a request by a gateway that has just started. -/
def answerTo (uri : String) : Except Fault (Handled Unit) :=
  handle Gateway.pooling serving 0 (.start {} () 0) (posted uri)

/-- The general statement at two requests: one is served, and the path of the other one addresses
nothing. -/
theorem outcome_law_posted :
    ∃ served refused, answerTo "/v1/a" = .ok served ∧ answerTo "/v2/a" = .ok refused ∧
      served.response = { status := 200, body := "relay sent" } ∧
      Served Gateway.pooling serving 0 (.start {} () 0) (posted "/v1/a") served.events ∧
      FirstFails Gateway.pooling serving 0 (.start {} () 0) (posted "/v2/a") .path
        (.invalidPath "/v2/a") ∧
      refused.response =
        { status := 400, body := "path does not match any of the accepted paths: /v2/a" } ∧
      refused.events = [] := by
  have hcomputed : ((answerTo "/v1/a").toOption.bind fun served =>
      (answerTo "/v2/a").toOption.map fun _ => served.response) =
        some { status := 200, body := "relay sent" } := by
    decide +kernel
  obtain ⟨served, hserved, hcomputed⟩ := Option.bind_eq_some_iff.mp hcomputed
  obtain ⟨refused, hrefused, hresponse⟩ := Option.map_eq_some_iff.mp hcomputed
  rw [toOption_eq_some_iff] at hserved hrefused
  have hfirst : FirstFails Gateway.pooling serving 0 (.start {} () 0) (posted "/v2/a") .path
      (.invalidPath "/v2/a") := by
    refine ⟨.path (by decide +kernel), fun earlier other hless hother => ?_⟩
    cases hother with
    | method hmethod => exact hmethod rfl
    | path | body | lookup | redirect | pool | session | nodes | relay =>
        exact absurd hless (by decide)
  obtain ⟨herror, hbefore⟩ := (outcome_law (length_posted_le _) hrefused).2.2 _ _ hfirst
  exact ⟨served, refused, hserved, hrefused, hresponse,
    (outcome_law (length_posted_le _) hserved).1.mp hresponse, hfirst, herror,
    (hbefore (by decide)).1⟩

end FrontDoor

end ChainGateway
