import ChainGateway.Backend
import ChainGateway.Net.Network

/-!
# Dispatch service and nodes behind HTTP

Sessions are dispatched by posting a request to the configured urls, one after the other, until
one of them answers with a session.  Relays are posted to the url of the node.  Both are JSON
documents, and so are the answers.

If no url gives a session, the failure of the last one is what is reported.
-/

namespace ChainGateway

open Json Text Net

variable {σ : Type}

/-- Where dispatch services answer, below their url. -/
def dispatchEndpoint : String := "/v1/client/dispatch"

/-- Where nodes answer, below their url. -/
def relayEndpoint : String := "/v1/client/relay"

/-! ## Dispatching -/

/-- The document that asks for a session. -/
def dispatchDocument (publicKey chain : String) : Value :=
  .ofMembers [
    ("app_public_key", .text publicKey), ("chain", .text chain), ("session_height", .ofNat 0)]

/-- The document form of the answer: a session in a record. -/
def dispatchAnswerSchema : Schema Session :=
  .record "DispatchResponse" (.field "session" Session.schema none .done)
    (fun (session, ()) => session) (fun session => (session, ()))

/-- The session of an answer from a url. -/
def sessionOfAnswer (url : String) : Except String (Nat × Octets) → Except Error Session
  | .error reason => .error (.network reason)
  | .ok (status, body) =>
      if isSuccess status then
        match dispatchAnswerSchema.decode body with
        | .ok session => .ok session
        | .error _ => .error (.network undecodable)
      else .error (.dispatchFailed (url ++ " responded with " ++ statusText status))

/-- Asks one dispatch service for a session. -/
def dispatchAt (network : Network σ) (state : σ) (base publicKey chain : String) :
    Except Error Session × σ :=
  let url := endpoint base dispatchEndpoint
  let (answer, state) := network.send state url (dispatchDocument publicKey chain)
  (sessionOfAnswer url answer, state)

/-- Asks dispatch services one after the other; `last` is the reason why the services before
these gave none. -/
def dispatchFrom (network : Network σ) (publicKey chain : String) :
    (last : String) → List String → σ → Except Error Session × σ
  | last, [], state => (.error (.dispatchFailed last), state)
  | _, base :: bases, state =>
      match dispatchAt network state base publicKey chain with
      | (.ok session, state) => (.ok session, state)
      | (.error error, state) => dispatchFrom network publicKey chain error.message bases state

/-- Asks for a session at the given urls. -/
def dispatch (network : Network σ) (urls : List String) (state : σ)
    (publicKey chain : String) : Except Error Session × σ :=
  dispatchFrom network publicKey chain "no dispatch urls" urls state

/-! ## Relaying -/

/-- The document of a relay.  Nodes are sent its members in this order, and not in that of their
names. -/
def relayDocument (relay : Relay) : Value :=
  .object [
    ("payload", .object [
      ("data", .text relay.data), ("method", .text relay.method), ("path", .text relay.path)]),
    ("chain", .text relay.chain),
    ("aat", .object [
      ("version", .text relay.token.version), ("app_pub_key", .text relay.token.applicationKey),
      ("client_pub_key", .text relay.token.clientKey),
      ("signature", .text relay.token.signature)]),
    ("session_key", .text relay.session.key),
    ("servicer_pub_key", .text relay.node.publicKey)]

/-- The answer of a node. -/
def answerOfNode (node : Node) : Except String (Nat × Octets) → Except Error RelayAnswer
  | .error reason => .error (.relayFailed reason)
  | .ok (status, body) =>
      if isSuccess status then
        match RelayAnswer.schema.decode body with
        | .ok answer => .ok answer
        | .error _ => .error (.relayFailed undecodable)
      else
        .error (.relayFailed ("node " ++ node.address ++ " responded with " ++ statusText status
          ++ ": " ++ Utf8.decodeLossy body))

/-- Hands a relay to its node. -/
def sendRelay (network : Network σ) (state : σ) (relay : Relay) :
    Except Error RelayAnswer × σ :=
  let (answer, state) :=
    network.send state (endpoint relay.node.serviceUrl relayEndpoint) (relayDocument relay)
  (answerOfNode relay.node answer, state)

/-- The services behind HTTP; the clock does not see the time they take. -/
def httpBackend (network : Network σ) (urls : List String) : Backend σ where
  dispatch := fun state publicKey chain =>
    let (outcome, state) := dispatch network urls state publicKey chain
    ({ outcome }, state)
  relay := fun state relay =>
    let (outcome, state) := sendRelay network state relay
    ({ outcome }, state)

/-- A dispatch service needs a url. -/
def checkUrls (urls : List String) : Except Error Unit :=
  if urls.isEmpty then .error (.invalidConfig "no dispatch urls provided") else .ok ()

end ChainGateway
