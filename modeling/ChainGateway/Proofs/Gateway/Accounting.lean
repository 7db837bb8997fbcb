import ChainGateway.Proofs.Gateway.Exit

/-!
# What a request is accountable for

For every state and every request: at most one relay is handed over, and everything it carries
comes from what the request names (`Sent`).  The result is the outcome of that relay, or the
error of the step that failed.  The affinity cache takes exactly one report when a session could
not be obtained or a relay was handed over, and none in every other case (`Accounted`).

All of it is read off the exits of a request.  What a request resolves to is unique
(`Resolved.unique`), so a relay can be said to have been answered without naming the exit.
-/

namespace ChainGateway.Gateway

open Affinity (Cache Details Outcome)

variable {σ : Type} {gateway : Gateway} {backend : Backend σ} {state : State σ} {route : Route}
  {request : RelayRequest}

/-- The application is the one that the request names, or one of the pool of the load balancer
that it names. -/
def Serves (gateway : Gateway) (request : RelayRequest) (application : Application) :
    Route → Prop
  | .application => gateway.repository.application request.applicationId = .ok application
  | .balancer _ => ∃ balancer, gateway.repository.balancer request.balancerId = .ok balancer ∧
      application ∈ balancer.applications

/-- The relay belongs to the request: it is for a node of the session that was obtained for the
application and the chain, and carries the application's token and the request's payload. -/
structure Sent (gateway : Gateway) (backend : Backend σ) (state : State σ) (route : Route)
    (request : RelayRequest) (chain : Blockchain) (application : Application)
    (obtained : Answer σ Session) (relay : Relay) : Prop where
  chain_eq : gateway.repository.chain request.chainName = .ok chain
  serves : Serves gateway request application route
  obtains : session backend state application.credentials.applicationKey chain.id = .ok obtained
  session_eq : obtained.result = .ok relay.session
  node_mem : relay.node ∈ relay.session.nodes
  relay_chain : relay.chain = chain.id
  token : relay.token = .ofApplication application gateway.plan
  data : relay.data = request.data
  path : relay.path = request.path
  method : relay.method = if request.method = "" then "POST" else request.method

/-- The step that a request failed at, with its error.  A failure of the session or of the relay
is reported once; the other steps are not reported. -/
inductive Failure (gateway : Gateway) (backend : Backend σ) (state : State σ) (route : Route)
    (request : RelayRequest) (answer : Answer σ Unit) : Error → Prop
  | lookup {error : Error} (hrefused : Refused gateway request route error)
      (hrelays : relaysOf answer.events = []) (haffinity : answer.state.affinity = state.affinity) :
      Failure gateway backend state route request answer error
  | session {chain : Blockchain} {application : Application} {details : Details}
      {obtained : Answer σ Session} {error : Error}
      (hresolved : Resolved gateway state request route chain application details)
      (hobtained : Obtains backend state application chain obtained)
      (hsession : obtained.result = .error error)
      (hrelays : relaysOf answer.events = [])
      (hleads : LeadsTo state.affinity answer.state.now (some (details, .failure))
        answer.state.affinity) :
      Failure gateway backend state route request answer error
  | nodes {chain : Blockchain} {application : Application} {details : Details}
      {obtained : Answer σ Session} {session : Session}
      (hresolved : Resolved gateway state request route chain application details)
      (hobtained : Obtains backend state application chain obtained)
      (hsession : obtained.result = .ok session) (hnodes : session.nodes = [])
      (hrelays : relaysOf answer.events = []) (haffinity : answer.state.affinity = state.affinity) :
      Failure gateway backend state route request answer .emptySession
  | relay {chain : Blockchain} {application : Application} {details : Details}
      {obtained : Answer σ Session} {relay : Relay} {error : Error}
      (hresolved : Resolved gateway state request route chain application details)
      (hsent : Sent gateway backend state route request chain application obtained relay)
      (hreply : answered backend obtained.state relay = .error error)
      (hrelays : relaysOf answer.events = [relay])
      (hleads : LeadsTo state.affinity answer.state.now
        (some (withServing details application relay.node, .failure)) answer.state.affinity) :
      Failure gateway backend state route request answer error

/-- The accounts of a request that gave an answer. -/
structure Accounted (gateway : Gateway) (backend : Backend σ) (state : State σ) (route : Route)
    (request : RelayRequest) (answer : Answer σ Unit) : Prop where
  /-- At most one relay is handed over, and it belongs to the request. -/
  relays : relaysOf answer.events = [] ∨
    ∃ chain application obtained relay, relaysOf answer.events = [relay] ∧
      Sent gateway backend state route request chain application obtained relay
  /-- The request succeeds exactly when a relay was handed over and answered. -/
  ok_iff : answer.result = .ok () ↔
    ∃ chain application details obtained relay reply,
      Resolved gateway state request route chain application details ∧
      Sent gateway backend state route request chain application obtained relay ∧
      relaysOf answer.events = [relay] ∧
      answered backend obtained.state relay = .ok reply
  /-- A success is reported once. -/
  success : answer.result = .ok () →
    ∃ chain application details obtained relay,
      Resolved gateway state request route chain application details ∧
      Sent gateway backend state route request chain application obtained relay ∧
      relaysOf answer.events = [relay] ∧
      LeadsTo state.affinity answer.state.now
        (some (withServing details application relay.node, .success)) answer.state.affinity
  /-- An error is that of the step that failed. -/
  failure : ∀ error, answer.result = .error error →
    Failure gateway backend state route request answer error

/-! ## What a request resolves to -/

namespace Resolved

variable {chain other : Blockchain} {application second : Application}
  {details rest : Details}

theorem chain_eq (hresolved : Resolved gateway state request route chain application details) :
    gateway.repository.chain request.chainName = .ok chain := by
  cases hresolved with
  | application happlication hchain => exact hchain
  | balancer hchain hbalancer hredirect hchosen => exact hchain

theorem serves (hresolved : Resolved gateway state request route chain application details) :
    Serves gateway request application route := by
  cases hresolved with
  | application happlication hchain => exact happlication
  | balancer hchain hbalancer hredirect hchosen =>
      exact ⟨_, hbalancer, chooseApplication_mem hchosen⟩

/-- A request resolves to one chain, one application and one affinity. -/
theorem unique (hfirst : Resolved gateway state request route chain application details)
    (hsecond : Resolved gateway state request route other second rest) :
    chain = other ∧ application = second ∧ details = rest := by
  cases hfirst with
  | application happlication hchain =>
      cases hsecond with
      | application happlication' hchain' =>
          exact ⟨eq_of_eq_ok hchain hchain', eq_of_eq_ok happlication happlication', rfl⟩
  | balancer hchain hbalancer hredirect hchosen =>
      cases hsecond with
      | balancer hchain' hbalancer' hredirect' hchosen' =>
          obtain rfl := eq_of_eq_ok hchain hchain'
          obtain rfl := eq_of_eq_ok hbalancer hbalancer'
          obtain rfl := eq_of_eq_ok hchosen hchosen'
          exact ⟨rfl, rfl, rfl⟩

/-- A relay that a resolved request hands over belongs to it. -/
theorem sent {obtained : Answer σ Session} {session : Session} {node : Node} {preferred : String}
    (hresolved : Resolved gateway state request route chain application details)
    (hobtained : Obtains backend state application chain obtained)
    (hsession : obtained.result = .ok session)
    (hnode : chooseNode session preferred = .ok node) :
    Sent gateway backend state route request chain application obtained
      (relayFor gateway request chain application session node) where
  chain_eq := hresolved.chain_eq
  serves := hresolved.serves
  obtains := hobtained
  session_eq := hsession
  node_mem := chooseNode_mem hnode
  relay_chain := rfl
  token := rfl
  data := rfl
  path := rfl
  method := rfl

end Resolved

/-! ## The accounts -/

section Accounts

variable {chain : Blockchain} {application : Application} {details : Details}
  {obtained : Answer σ Session} {answer : Answer σ Unit} {relay : Relay} {relay? : Option Relay}
  {report? : Option (Details × Outcome)}

/-- Once a relay was handed over, the result is what came of it. -/
theorem Exit.result_eq
    (hexit : Exit gateway backend state route request answer (some relay) report?)
    (hresolved : Resolved gateway state request route chain application details)
    (hobtained : Obtains backend state application chain obtained) :
    answer.result = (answered backend obtained.state relay).map fun _ => () := by
  cases hexit with
  | relayed hresolved' hobtained' hsession hnode hrelay hreport =>
      obtain ⟨rfl, rfl, rfl⟩ := hresolved.unique hresolved'
      obtain rfl := eq_of_eq_ok hobtained hobtained'
      rfl

/-- An answer with a relay among its events comes from an exit that hands this relay over. -/
theorem Exit.relay?_eq (hexit : Exit gateway backend state route request answer relay? report?)
    (hrelays : relaysOf answer.events = [relay]) : relay? = some relay := by
  have hlist := hexit.relays
  rw [hrelays] at hlist
  cases relay? with
  | none => cases hlist
  | some handed =>
      cases hlist
      rfl

theorem Exit.relays_account
    (hexit : Exit gateway backend state route request answer relay? report?) :
    relaysOf answer.events = [] ∨
      ∃ chain application obtained relay, relaysOf answer.events = [relay] ∧
        Sent gateway backend state route request chain application obtained relay := by
  have hrelays := hexit.relays
  cases hexit with
  | refused hrefused => exact Or.inl hrelays
  | unobtained hresolved hobtained hsession hreport => exact Or.inl hrelays
  | nodeless hresolved hobtained hsession hnodes => exact Or.inl hrelays
  | relayed hresolved hobtained hsession hnode hrelay hreport =>
      subst hrelay
      exact Or.inr ⟨_, _, _, _, hrelays, hresolved.sent hobtained hsession hnode⟩

theorem Exit.success_account
    (hexit : Exit gateway backend state route request answer relay? report?)
    (hresult : answer.result = .ok ()) :
    ∃ chain application details obtained relay reply,
      Resolved gateway state request route chain application details ∧
      Sent gateway backend state route request chain application obtained relay ∧
      relaysOf answer.events = [relay] ∧
      answered backend obtained.state relay = .ok reply ∧
      LeadsTo state.affinity answer.state.now
        (some (withServing details application relay.node, .success)) answer.state.affinity := by
  have hrelays := hexit.relays
  have hleads := hexit.leadsTo
  cases hexit with
  | refused hrefused => cases hresult
  | unobtained hresolved hobtained hsession hreport => cases hresult
  | nodeless hresolved hobtained hsession hnodes => cases hresult
  -- every other exit has an error as its result
  | relayed hresolved hobtained hsession hnode hrelay hreport =>
      subst hrelay
      obtain ⟨reply, hreply, -⟩ := map_eq_ok_iff.mp hresult
      rw [hreply] at hleads
      exact ⟨_, _, _, _, _, reply, hresolved, hresolved.sent hobtained hsession hnode, hrelays,
        hreply, hleads⟩

theorem Exit.failure_account
    (hexit : Exit gateway backend state route request answer relay? report?) {error : Error}
    (hresult : answer.result = .error error) :
    Failure gateway backend state route request answer error := by
  have hrelays := hexit.relays
  have hleads := hexit.leadsTo
  cases hexit with
  | refused hrefused =>
      cases hresult
      exact .lookup hrefused hrelays hleads
  | unobtained hresolved hobtained hsession hreport =>
      cases hresult
      exact .session hresolved hobtained hsession hrelays hleads
  | nodeless hresolved hobtained hsession hnodes =>
      cases hresult
      exact .nodes hresolved hobtained hsession hnodes hrelays hleads
  | relayed hresolved hobtained hsession hnode hrelay hreport =>
      subst hrelay
      have hreply := map_eq_error_iff.mp hresult
      rw [hreply] at hleads
      exact .relay hresolved (hresolved.sent hobtained hsession hnode) hreply hrelays hleads

theorem Exit.accounted
    (hexit : Exit gateway backend state route request answer relay? report?) :
    Accounted gateway backend state route request answer where
  relays := hexit.relays_account
  ok_iff := by
    constructor
    · intro hresult
      obtain ⟨chain, application, details, obtained, relay, reply, hresolved, hsent, hrelays,
        hreply, -⟩ := hexit.success_account hresult
      exact ⟨chain, application, details, obtained, relay, reply, hresolved, hsent, hrelays,
        hreply⟩
    · rintro ⟨chain, application, details, obtained, relay, reply, hresolved, hsent, hrelays,
        hreply⟩
      -- The relay among the events is the one of the exit, so the exit cannot be another one.
      cases hexit.relay?_eq hrelays
      rw [hexit.result_eq hresolved hsent.obtains, hreply]
      rfl
  success := by
    intro hresult
    obtain ⟨chain, application, details, obtained, relay, reply, hresolved, hsent, hrelays, -,
      hleads⟩ := hexit.success_account hresult
    exact ⟨chain, application, details, obtained, relay, hresolved, hsent, hrelays, hleads⟩
  failure := fun _ hresult => hexit.failure_account hresult

end Accounts

/-- Every request keeps its accounts, from every state and with every backend.  It has no answer
exactly when it overflows the clock or a counter. -/
theorem handle_accounts (gateway : Gateway) (backend : Backend σ) (state : State σ)
    (route : Route) (request : RelayRequest) :
    match gateway.handle backend state route request with
    | .ok answer => Accounted gateway backend state route request answer ∧
        ∀ fault, ¬ Overflow gateway backend state route request fault
    | .error fault => Overflow gateway backend state route request fault := by
  cases hhandle : gateway.handle backend state route request with
  | error fault => exact handle_eq_error_iff.mp hhandle
  | ok answer =>
      obtain ⟨relay?, report?, hexit⟩ := handle_exit hhandle
      refine ⟨hexit.accounted, fun fault hoverflow => ?_⟩
      rw [handle_eq_error_iff.mpr hoverflow] at hhandle
      cases hhandle

end ChainGateway.Gateway
