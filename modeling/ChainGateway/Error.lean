/-!
# Errors of the gateway

Every operation that can fail says why by a value of `Error`.  The text of an error is what a
caller sees: the front door sends it as the body of its answer, and the command line prints it.
-/

namespace ChainGateway

/-- The reasons for which an operation fails. -/
inductive Error where
  /-- No application has the id. -/
  | applicationNotFound (id : String)
  /-- No block chain has the id or alias. -/
  | chainNotFound (name : String)
  /-- No load balancer has the id. -/
  | balancerNotFound (id : String)
  /-- The load balancer has no application to relay through. -/
  | emptyPool (id : String)
  /-- The session has no node to relay to. -/
  | emptySession
  /-- The request asks for something that is not offered yet. -/
  | notImplemented (what : String)
  /-- The node did not serve the relay. -/
  | relayFailed (reason : String)
  /-- No session could be obtained. -/
  | dispatchFailed (reason : String)
  /-- A message could not be exchanged. -/
  | network (reason : String)
  /-- The path of a request addresses nothing. -/
  | invalidPath (path : String)
  /-- The body of a request is not as it should be. -/
  | invalidRequest (reason : String)
  /-- A request has another method than the accepted one. -/
  | invalidMethod (method : String)
  /-- A configuration cannot be honoured. -/
  | invalidConfig (reason : String)
  /-- A file could not be read. -/
  | unreadable (reason : String)
  /-- A JSON document is malformed. -/
  | invalidDocument (reason : String)
  /-- A configuration file is malformed. -/
  | invalidConfigFile (reason : String)
  /-- Any other reason. -/
  | other (reason : String)
  deriving DecidableEq, Repr, Inhabited

namespace Error

/-- The text of an error. -/
def message : Error → String
  | .applicationNotFound id => "no applications found matching " ++ id
  | .chainNotFound name => "no blockchains found matching " ++ name
  | .balancerNotFound id => "no load balancers found matching " ++ id
  | .emptyPool id => "load balancer " ++ id ++ " configuration invalid: no valid applications"
  | .emptySession => "session has no nodes"
  | .notImplemented what => "not implemented: " ++ what
  | .relayFailed reason => "relay failed: " ++ reason
  | .dispatchFailed reason => "dispatch failed: " ++ reason
  | .network reason => "network error: " ++ reason
  | .invalidPath path => "path does not match any of the accepted paths: " ++ path
  | .invalidRequest reason => "invalid request: " ++ reason
  | .invalidMethod method => "incorrect request method, expected: POST, got: " ++ method
  | .invalidConfig reason => "invalid config: " ++ reason
  | .unreadable reason => "io error: " ++ reason
  | .invalidDocument reason => "serde json error: " ++ reason
  | .invalidConfigFile reason => "toml deserialization error: " ++ reason
  | .other reason => "other: " ++ reason

end Error

end ChainGateway
