import ChainGateway.FrontDoor.Target
import ChainGateway.Gateway
import ChainGateway.Net.SocketAddress

/-!
# The front door

An HTTP request becomes a request to the gateway.  The path says whom it addresses, the body
names the chain and carries the payload, and two headers tell where the caller's page comes from
and, behind a proxy, from which address the caller comes.

A request is checked in this order, and the first check that fails decides the answer: the size
of the body, the method, the path, the body, and then everything that the gateway itself finds.
-/

namespace ChainGateway.FrontDoor

open Json Text Net

/-- An HTTP request as it comes in. -/
structure Request where
  method : String := "POST"
  /-- What the first line of the request names. -/
  uri : String
  /-- The header lines, in order. -/
  headers : List (String × Octets) := []
  body : Octets := []
  /-- The address of the peer, if it is known. -/
  peer? : Option IpAddress := none
  deriving Repr

/-- The answer to an HTTP request. -/
structure Response where
  status : Nat
  body : String
  deriving DecidableEq, Repr

/-- The method that is accepted. -/
def acceptedMethod : String := "POST"

/-- The greatest size of a body in octets. -/
def bodyLimit : Nat := 2097152

/-! ## Parts of a request -/

/-- Is this the beginning of a query or a fragment? -/
def endsPath (char : Char) : Bool :=
  char = '?' || char = '#'

/-- What follows the mark `://` after the scheme, if there is one. -/
def afterScheme? : List Char → Option (List Char)
  | ':' :: '/' :: '/' :: rest => some rest
  | char :: rest => if char = '/' || endsPath char then none else afterScheme? rest
  | [] => none

/-- The path of what the request line names: a path itself, or a whole url. -/
def pathOfUri (uri : String) : String :=
  let chars := uri.toList
  let path :=
    match afterScheme? chars with
    | some rest =>
        let path := rest.dropWhile fun char => !(char = '/' || endsPath char)
        if path.head? = some '/' then path else ['/']
    | none => if chars.head? = some '/' || chars = ['*'] then chars else []
  String.ofList (path.takeWhile fun char => !endsPath char)

/-- Is the octet a printable one of the basic alphabet, or a tab? -/
def isVisible (octet : UInt8) : Bool :=
  (decide (0x20 ≤ octet.toNat) && decide (octet.toNat < 0x7F)) || octet = 0x09

/-- The text of the first header line with a name; empty if there is none, or if its value is
not readable. -/
def headerText (headers : List (String × Octets)) (name : String) : List Char :=
  match headers.find? fun header => equalIgnoringCase header.1 name with
  | some (_, value) =>
      if value.all isVisible then value.map fun octet => Char.ofNat octet.toNat else []
  | none => []

/-- The first entry of a list with commas that is not blank. -/
def firstListed? (chars : List Char) : Option (List Char) :=
  ((segments ',' chars).map trimBlanks).find? fun entry => !entry.isEmpty

/-- The address of the caller: the first one that proxies forward, or else that of the peer. -/
def callerAddress (request : Request) : String :=
  match firstListed? (headerText request.headers "x-forwarded-for") with
  | some entry => String.ofList entry
  | none =>
      match request.peer? with
      | some ip => ip.text
      | none => ""

/-- What the body of a request says. -/
structure Payload where
  chainName : String
  data : Value := .null

/-- The document form of the body: only the chain must be present. -/
def Payload.schema : Schema Payload :=
  .record "RelayRequestBody"
    (.field "blockchainID" .text none <| .field "rawData" .value (some .null) .done)
    (fun (chainName, data, ()) => { chainName, data })
    (fun payload => (payload.chainName, payload.data, ()))

/-- Reads the body of a request; the chain must be named. -/
def Payload.ofBody (body : Octets) : Except Error Payload :=
  match Payload.schema.decode body with
  | .error problem => .error (.invalidRequest problem.message)
  | .ok payload =>
      if payload.chainName = "" then .error (.invalidRequest "missing blockchainID")
      else .ok payload

/-- The number of the request within the payload, zero if it has none. -/
def Payload.rpcId (payload : Payload) : Int :=
  ((payload.data.member? "id").bind Value.signedWord?).getD 0

/-- The request to the gateway. -/
def relayRequest (target : Target) (request : Request) (payload : Payload) : RelayRequest :=
  let common : RelayRequest :=
    { origin := String.ofList (headerText request.headers "origin")
      method := acceptedMethod
      data := payload.data.render
      ip := callerAddress request
      chainName := payload.chainName
      rpcId := payload.rpcId }
  match target with
  | .application id path => { common with applicationId := id, path }
  | .balancer id path => { common with balancerId := id, path }

/-- Checks a request and says whom it addresses with what. -/
def read (request : Request) : Except Error (Target × RelayRequest) := do
  if request.method ≠ acceptedMethod then
    throw (.invalidMethod request.method)
  let target ← Target.ofPath (pathOfUri request.uri)
  let payload ← Payload.ofBody request.body
  return (target, relayRequest target request payload)

/-! ## Answers -/

/-- The answer that tells an error. -/
def Response.ofError (error : Error) : Response where
  status := 400
  body := error.message

/-- The answer that tells how a relay ended. -/
def Response.ofResult : Except Error Unit → Response
  | .ok () => { status := 200, body := "relay sent" }
  | .error error => .ofError error

/-- The answer to a body that is too large. -/
def Response.tooLarge : Response where
  status := 413
  body := "Failed to buffer the request body: length limit exceeded"

/-- The answer to a request, the state after it and what it caused. -/
structure Handled (σ : Type) where
  response : Response
  state : State σ
  events : List Event := []

/-- Answers a request; `draw` is the random choice among the applications of a pool. -/
def handle {σ : Type} (gateway : Gateway) (backend : Backend σ) (draw : Nat) (state : State σ)
    (request : Request) : Except Fault (Handled σ) :=
  if bodyLimit < request.body.length then
    .ok { response := .tooLarge, state }
  else
    match read request with
    | .error error => .ok { response := .ofError error, state }
    | .ok (target, relay) =>
        let answer :=
          match target with
          | .application .. => gateway.relayForApplication backend state relay
          | .balancer .. => gateway.relayForBalancer backend draw state relay
        answer.map fun answer =>
          { response := .ofResult answer.result, state := answer.state, events := answer.events }

end ChainGateway.FrontDoor
