import ChainGateway.Affinity.Cache
import ChainGateway.Backend
import ChainGateway.Repository
import ChainGateway.SessionCache

/-!
# Relaying requests

A request names an application or a load balancer, and a chain.  The gateway resolves these,
chooses the application (the preferred one of a load balancer's pool, or one drawn at random),
obtains a session, chooses the node (the preferred one, or the first), hands the relay over and
reports the outcome to the affinity cache.

Each step that fails ends the request with its error.  A failure to obtain a session and a
failure of the relay itself are reported as failures; the other errors say nothing about the
node and are not reported.

The state that requests change is `State`: the two caches, the services behind the gateway and
the clock.  A request returns its result together with the state after it and the events it
caused, in order.
-/

namespace ChainGateway

open Affinity (Cache Details Key Outcome)

/-- The method of a relay whose request names none. -/
def defaultMethod : String := "POST"

/-- The parameters of a request. -/
structure RelayRequest where
  /-- Where the caller's page comes from. -/
  origin : String := ""
  method : String := ""
  data : String := ""
  /-- The address of the caller. -/
  ip : String := ""
  /-- The path that is passed on to the node. -/
  path : String := ""
  /-- The id or an alias of the chain. -/
  chainName : String := ""
  rpcId : Int := 0
  applicationId : String := ""
  balancerId : String := ""
  deriving DecidableEq, Repr, Inhabited

/-- What a gateway works with and never changes. -/
structure Gateway where
  repository : Repository := {}
  plan : Plan := .freemium
  /-- The greatest number of probes of a check at one time. -/
  maxInFlight : Nat := 32
  deriving Inhabited

/-- What requests change. -/
structure State (σ : Type) where
  sessions : SessionCache
  affinity : Cache
  /-- The state of the services behind the gateway. -/
  services : σ
  now : Instant

/-- The gateway of a configuration. -/
def Gateway.ofConfig (config : Config) (repository : Repository) : Gateway where
  repository := repository
  plan := config.plan
  maxInFlight := max 1 config.check.maxInFlight.toNat

/-- The state in which a gateway starts: both caches are empty. -/
def State.start {σ : Type} (config : Config) (services : σ) (now : Instant) : State σ where
  sessions := { settings := config.session }
  affinity := { settings := config.sticky }
  services := services
  now := now

/-- The result of an operation, the state after it and what it caused. -/
structure Answer (σ α : Type) where
  result : Except Error α
  state : State σ
  events : List Event := []

variable {σ : Type}

namespace Gateway

/-! ## Steps of a relay -/

/-- Obtains the session of a public key on a chain: the live one of the cache, or one that is
dispatched and kept. -/
def session (backend : Backend σ) (state : State σ) (publicKey chain : String) :
    Except Fault (Answer σ Session) :=
  let key : SessionKey := { publicKey, chain }
  match state.sessions.lookup key state.now with
  | some session => .ok { result := .ok session, state }
  | none =>
      let (reply, services) := backend.dispatch state.services publicKey chain
      let state := { state with services, now := state.now + reply.delay }
      let events := [.dispatched publicKey chain]
      match reply.outcome with
      | .error error => .ok { result := .error error, state, events }
      | .ok session =>
          (state.sessions.insert key session state.now).map fun sessions =>
            { result := .ok session, state := { state with sessions }, events }

/-- The application to relay through: the preferred one if it is in the pool, otherwise the one
that the draw points at. -/
def chooseApplication (balancer : LoadBalancer) (preferred : String) (draw : Nat) :
    Except Error Application :=
  -- An empty preference is looked up like any other id.
  match balancer.application? preferred with
  | some application => .ok application
  | none =>
      match balancer.applications[draw % balancer.applications.length]? with
      | some application => .ok application
      | none => .error (.emptyPool balancer.id)

/-- The node to relay to: the preferred one if it is in the session, otherwise the first. -/
def chooseNode (session : Session) (preferred : String) : Except Error Node :=
  match (session.node? preferred).or session.firstNode? with
  | some node => .ok node
  | none => .error .emptySession

/-- Reports the outcome of a request. -/
def report (state : State σ) (details : Details) (outcome : Outcome) :
    Except Fault (State σ) :=
  (state.affinity.report details outcome state.now).map fun (affinity, _) =>
    { state with affinity }

/-- The details with the application and node that serve the request as preferences, where it
has none yet. -/
def withServing (details : Details) (application : Application) (node : Node) : Details :=
  { details with
    preference := details.preference.orElse
      { application := application.id, node := node.address } }

/-- The relay of a request, once everything it refers to is known. -/
def relayFor (gateway : Gateway) (request : RelayRequest) (chain : Blockchain)
    (application : Application) (session : Session) (node : Node) : Relay where
  method := if request.method = "" then defaultMethod else request.method
  chain := chain.id
  data := request.data
  path := request.path
  token := .ofApplication application gateway.plan
  session := session
  node := node

/-- Relays on behalf of an application and reports the outcome. -/
def deliver (gateway : Gateway) (backend : Backend σ) (state : State σ)
    (request : RelayRequest) (chain : Blockchain) (application : Application)
    (details : Details) : Except Fault (Answer σ Unit) := do
  let token := Token.ofApplication application gateway.plan
  let obtained ← session backend state token.applicationKey chain.id
  match obtained.result with
  | .error error =>
      let state ← report obtained.state details .failure
      return { result := .error error, state, events := obtained.events }
  | .ok session =>
      match chooseNode session details.preference.node with
      | .error error =>
          -- Nothing was sent, so there is no outcome to report.
          return { result := .error error, state := obtained.state, events := obtained.events }
      | .ok node =>
          let details := withServing details application node
          let relay := relayFor gateway request chain application session node
          let (reply, services) := backend.relay obtained.state.services relay
          let state := { obtained.state with services, now := obtained.state.now + reply.delay }
          let events := obtained.events ++ [.relayed relay]
          match reply.outcome with
          | .ok _ => return { result := .ok (), state := ← report state details .success, events }
          | .error error =>
              return { result := .error error, state := ← report state details .failure, events }

/-! ## Requests -/

/-- A request that ends before anything is asked for. -/
def refuse (state : State σ) (error : Error) : Except Fault (Answer σ Unit) :=
  .ok { result := .error error, state }

/-- Relays on behalf of the application that the request names. -/
def relayForApplication (gateway : Gateway) (backend : Backend σ) (state : State σ)
    (request : RelayRequest) : Except Fault (Answer σ Unit) :=
  match gateway.repository.application request.applicationId with
  | .error error => refuse state error
  | .ok application =>
      match gateway.repository.chain request.chainName with
      | .error error => refuse state error
      | .ok chain => deliver gateway backend state request chain application {}

/-- The affinity of a request that names a load balancer. -/
def resolveAffinity (state : State σ) (request : RelayRequest) (chain : Blockchain)
    (balancer : LoadBalancer) : Details :=
  (state.affinity.resolve balancer.policy
    (fun _ => Key.ofCaller request.rpcId balancer.id "" chain.id request.ip)
    (fun policy => policy.allows request.origin)).details

/-- The details with the chosen application as preference, where nothing is preferred yet. -/
def withChosen (details : Details) (application : Application) : Details :=
  if details.preference.isEmpty then
    { details with preference := { details.preference with application := application.id } }
  else details

/-- Relays through an application of the load balancer that the request names; `draw` is the
random choice among the applications of the pool. -/
def relayForBalancer (gateway : Gateway) (backend : Backend σ) (draw : Nat) (state : State σ)
    (request : RelayRequest) : Except Fault (Answer σ Unit) :=
  match gateway.repository.chain request.chainName with
  | .error error => refuse state error
  | .ok chain =>
      match gateway.repository.balancer request.balancerId with
      | .error error => refuse state error
      | .ok balancer =>
          if balancer.redirect then
            refuse state
              (.notImplemented ("gigastake redirect for load balancer " ++ balancer.id))
          else
            let details := resolveAffinity state request chain balancer
            match chooseApplication balancer details.preference.application draw with
            | .error error => refuse state error
            | .ok application =>
                deliver gateway backend state request chain application
                  (withChosen details application)

end Gateway

end ChainGateway
