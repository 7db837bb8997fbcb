import ChainGateway.Json.Schema

/-!
# Applications

An application is a client registered with the gateway.  Its credentials are what the gateway
needs to relay on its behalf; the public key among them is the identity under which sessions
are dispatched.
-/

namespace ChainGateway

open Json

/-- Credentials from which the authorization token of an application is built. -/
structure Credentials where
  address : String := ""
  applicationKey : String := ""
  applicationSignature : String := ""
  clientKey : String := ""
  version : String := ""
  deriving DecidableEq, Repr, Inhabited

/-- A client application registered with the gateway. -/
structure Application where
  id : String
  name : String := ""
  owner : String := ""
  credentials : Credentials := {}
  deriving DecidableEq, Repr, Inhabited

/-- The document form of credentials: only the application's public key must be present. -/
def Credentials.schema : Schema Credentials :=
  .record "GatewayAat"
    (.field "address" .text (some "") <|
      .field "applicationPublicKey" .text none <|
      .field "applicationSignature" .text (some "") <|
      .field "clientPublicKey" .text (some "") <|
      .field "version" .text (some "") .done)
    (fun (address, applicationKey, applicationSignature, clientKey, version, ()) =>
      { address, applicationKey, applicationSignature, clientKey, version })
    (fun credentials =>
      (credentials.address, credentials.applicationKey, credentials.applicationSignature,
        credentials.clientKey, credentials.version, ()))

/-- The document form of an application: only its id must be present. -/
def Application.schema : Schema Application :=
  .record "Application"
    (.field "id" .text none <|
      .field "name" .text (some "") <|
      .field "userId" .text (some "") <|
      .field "gatewayAAT" Credentials.schema (some {}) .done)
    (fun (id, name, owner, credentials, ()) => { id, name, owner, credentials })
    (fun application =>
      (application.id, application.name, application.owner, application.credentials, ()))

end ChainGateway
