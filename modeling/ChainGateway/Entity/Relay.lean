import ChainGateway.Entity.Application
import ChainGateway.Entity.Session

/-!
# Relays

A relay is one message for one node of a session, together with the token that proves that the
gateway acts on behalf of an application.
-/

namespace ChainGateway

open Json

/-- The plan under which tokens are built. -/
inductive Plan where
  | freemium
  | premium
  deriving DecidableEq, Repr, Inhabited

/-- Proof that the gateway relays on behalf of an application. -/
structure Token where
  version : String
  applicationKey : String
  clientKey : String
  signature : String
  deriving DecidableEq, Repr, Inhabited

/-- The token built from an application's credentials; both plans draw on the same ones. -/
def Token.ofApplication (application : Application) : Plan → Token
  | .freemium | .premium =>
      { version := application.credentials.version
        applicationKey := application.credentials.applicationKey
        clientKey := application.credentials.clientKey
        signature := application.credentials.applicationSignature }

/-- A message for one node of a session. -/
structure Relay where
  method : String
  /-- The identifier of the chain. -/
  chain : String
  data : String
  path : String
  token : Token
  session : Session
  node : Node
  deriving DecidableEq, Repr, Inhabited

/-- What a node answers. -/
structure RelayAnswer where
  response : String
  signature : String := ""
  deriving DecidableEq, Repr, Inhabited

/-- The plans by their names in documents. -/
def Plan.names : List (String × Plan) :=
  [("Freemium", .freemium), ("Premium", .premium)]

/-- The name of a plan in documents. -/
def Plan.name : Plan → String
  | .freemium => "Freemium"
  | .premium => "Premium"

/-- The document form of a plan: its name. -/
def Plan.schema : Schema Plan :=
  .choice Plan.names Plan.name

/-- The document form of a token: every field must be present. -/
def Token.schema : Schema Token :=
  .record "Aat"
    (.field "version" .text none <|
      .field "app_pub_key" .text none <|
      .field "client_pub_key" .text none <|
      .field "signature" .text none .done)
    (fun (version, applicationKey, clientKey, signature, ()) =>
      { version, applicationKey, clientKey, signature })
    (fun token => (token.version, token.applicationKey, token.clientKey, token.signature, ()))

/-- The document form of an answer: the signature may be missing. -/
def RelayAnswer.schema : Schema RelayAnswer :=
  .record "RelayOutput"
    (.field "response" .text none <|
      .field "signature" .text (some "") .done)
    (fun (response, signature, ()) => { response, signature })
    (fun answer => (answer.response, answer.signature, ()))

end ChainGateway
