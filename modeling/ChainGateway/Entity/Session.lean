import ChainGateway.Json.Schema

/-!
# Sessions

A session is the set of nodes that may serve an application on a chain for some time.  Nodes
are listed in order; the first one serves whoever has no preference.
-/

namespace ChainGateway

open Json

/-- A node that may serve relays within a session. -/
structure Node where
  address : String
  publicKey : String := ""
  serviceUrl : String := ""
  deriving DecidableEq, Repr, Inhabited

/-- What a session was dispatched for. -/
structure SessionHeader where
  applicationKey : String := ""
  chain : String := ""
  height : UInt64 := 0
  deriving DecidableEq, Repr, Inhabited

/-- The nodes that may serve an application on a chain. -/
structure Session where
  key : String
  header : SessionHeader := {}
  nodes : List Node := []
  deriving DecidableEq, Repr, Inhabited

/-- The first node of the session with the given address. -/
def Session.node? (session : Session) (address : String) : Option Node :=
  session.nodes.find? fun node => node.address == address

/-- The first node of the session. -/
def Session.firstNode? (session : Session) : Option Node :=
  session.nodes.head?

/-- The document form of a node: only its address must be present. -/
def Node.schema : Schema Node :=
  .record "Node"
    (.field "address" .text none <|
      .field "public_key" .text (some "") <|
      .field "service_url" .text (some "") .done)
    (fun (address, publicKey, serviceUrl, ()) => { address, publicKey, serviceUrl })
    (fun node => (node.address, node.publicKey, node.serviceUrl, ()))

/-- The document form of a session's header. -/
def SessionHeader.schema : Schema SessionHeader :=
  .record "SessionHeader"
    (.field "app_public_key" .text none <|
      .field "chain" .text none <|
      .field "session_height" (.word64 "u64") (some 0) .done)
    (fun (applicationKey, chain, height, ()) => { applicationKey, chain, height })
    (fun header => (header.applicationKey, header.chain, header.height, ()))

/-- The document form of a session: only its key must be present. -/
def Session.schema : Schema Session :=
  .record "Session"
    (.field "key" .text none <|
      .field "header" SessionHeader.schema (some {}) <|
      .field "nodes" (.list Node.schema) (some []) .done)
    (fun (key, header, nodes, ()) => { key, header, nodes })
    (fun session => (session.key, session.header, session.nodes, ()))

end ChainGateway
