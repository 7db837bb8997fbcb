import ChainGateway.Entity.Relay
import ChainGateway.Entity.StickyPolicy
import ChainGateway.Error
import ChainGateway.Net.SocketAddress

/-!
# Configuration

The settings of the gateway with their defaults, and the conditions under which a configuration
is accepted: sessions must be kept for some time, and a check must be allowed at least one
probe.
-/

namespace ChainGateway

open Json Net

/-- How long, and how many, sessions are kept. -/
structure SessionSettings where
  /-- Seconds for which a session is served without asking again. -/
  lifetime : UInt64 := 60
  /-- The greatest number of sessions kept. -/
  capacity : UInt64 := 10000
  deriving DecidableEq, Repr, Inhabited

/-- How callers are kept with the application and node that served them. -/
structure StickySettings where
  /-- Seconds for which a counter counts before it starts over. -/
  window : UInt64 := 60
  /-- Relays within one window after which a preference is dropped. -/
  relayLimit : UInt32 := 100
  /-- Errors within one window after which a preference is dropped. -/
  errorLimit : UInt32 := 5
  /-- The policy for load balancers that have none of their own. -/
  defaultPolicy : StickyPolicy := {}
  deriving DecidableEq, Repr, Inhabited

/-- How nodes are checked. -/
structure CheckSettings where
  /-- The greatest number of probes at one time. -/
  maxInFlight : UInt64 := 32
  deriving DecidableEq, Repr, Inhabited

/-- The settings of the gateway. -/
structure Config where
  /-- The address the front door listens on. -/
  listener : SocketAddress := { ip := .v4 0 0 0 0, port := 8090 }
  /-- Where sessions are dispatched, in the order in which it is tried. -/
  dispatchUrls : List String := []
  /-- The directory of the documents. -/
  dataDirectory : String := "/tmp"
  plan : Plan := .freemium
  /-- Seconds after which a message to a node or dispatcher is given up. -/
  requestTimeout : UInt64 := 20
  session : SessionSettings := {}
  sticky : StickySettings := {}
  check : CheckSettings := {}
  deriving DecidableEq, Repr

instance : Inhabited Config := ⟨{}⟩

/-- Accepts the configurations that the gateway can be run with. -/
def Config.validate (config : Config) : Except Error Unit :=
  if config.session.lifetime = 0 then
    .error (.invalidConfig "session ttl must be non-zero")
  else if config.check.maxInFlight = 0 then
    .error (.invalidConfig "chain check max_in_flight must be non-zero")
  else
    .ok ()

/-! ## Document form

Every field may be missing and then has its default. -/

/-- The document form of session settings. -/
def SessionSettings.schema : Schema SessionSettings :=
  .record "SessionCacheConfig"
    (.field "ttl_secs" (.word64 "u64") (some 60) <|
      .field "max_entries" (.word64 "usize") (some 10000) .done)
    (fun (lifetime, capacity, ()) => { lifetime, capacity })
    (fun settings => (settings.lifetime, settings.capacity, ()))

/-- The document form of stickiness settings. -/
def StickySettings.schema : Schema StickySettings :=
  .record "StickySettings"
    (.field "duration_secs" (.word64 "u64") (some 60) <|
      .field "relay_limit" (.word32 "u32") (some 100) <|
      .field "max_errors" (.word32 "u32") (some 5) <|
      .field "default_options" StickyPolicy.schema (some {}) .done)
    (fun (window, relayLimit, errorLimit, defaultPolicy, ()) =>
      { window, relayLimit, errorLimit, defaultPolicy })
    (fun settings =>
      (settings.window, settings.relayLimit, settings.errorLimit, settings.defaultPolicy, ()))

/-- The document form of check settings. -/
def CheckSettings.schema : Schema CheckSettings :=
  .record "ChainCheckConfig"
    (.field "max_in_flight" (.word64 "usize") (some 32) .done)
    (fun (maxInFlight, ()) => { maxInFlight })
    (fun settings => (settings.maxInFlight, ()))

/-- The document form of a socket address: its text. -/
def listenerSchema : Schema SocketAddress :=
  .formatted "socket address"
    (fun text =>
      match SocketAddress.ofText? text with
      | some address => .ok address
      | none => .error "invalid socket address syntax")
    SocketAddress.text

/-- The document form of a path: its text. -/
def pathSchema : Schema String :=
  .formatted "path string" .ok id

/-- The document form of a configuration. -/
def Config.schema : Schema Config :=
  .record "Config"
    (.field "listener" listenerSchema (some { ip := .v4 0 0 0 0, port := 8090 }) <|
      .field "dispatch_urls" (.list .text) (some []) <|
      .field "data_dir" pathSchema (some "/tmp") <|
      .field "aat_plan" Plan.schema (some .freemium) <|
      .field "request_timeout_secs" (.word64 "u64") (some 20) <|
      .field "session" SessionSettings.schema (some {}) <|
      .field "sticky" StickySettings.schema (some {}) <|
      .field "chain_check" CheckSettings.schema (some {}) .done)
    (fun (listener, dispatchUrls, dataDirectory, plan, requestTimeout, session, sticky, check,
        ()) =>
      { listener, dispatchUrls, dataDirectory, plan, requestTimeout, session, sticky, check })
    (fun config =>
      (config.listener, config.dispatchUrls, config.dataDirectory, config.plan,
        config.requestTimeout, config.session, config.sticky, config.check, ()))

end ChainGateway
