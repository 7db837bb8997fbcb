import ChainGateway.Json.Schema
import ChainGateway.Text.Lowercase

/-!
# Stickiness policies

A policy says whether callers are kept with the application and node that served them, and for
which origins.  It belongs to a load balancer or is the default of the gateway.  An origin is
listed if it contains one of the policy's origins as a part, after both have been put in lower
case.
-/

namespace ChainGateway

open Json Text

/-- A policy on stickiness.  The duration and the limit are carried for reporting only; windows
and limits of counters come from the settings of the gateway. -/
structure StickyPolicy where
  sticky : Bool := false
  /-- Seconds for which a preference is meant to last. -/
  duration : UInt64 := 0
  /-- Number of relays for which a preference is meant to last. -/
  limit : UInt32 := 0
  /-- Parts of the origins for which the preference is honoured. -/
  origins : List String := []
  deriving DecidableEq, Repr, Inhabited

namespace StickyPolicy

/-- A policy without stickiness, or without any origin, disables stickiness. -/
def isEmpty (policy : StickyPolicy) : Bool :=
  !policy.sticky || policy.origins.isEmpty

/-- Does the text contain the part? -/
def contains (text part : List Char) : Bool :=
  match text with
  | [] => part.isEmpty
  | char :: rest => part.isPrefixOf (char :: rest) || contains rest part

/-- Is the origin one for which the policy honours a preference? -/
def allows (policy : StickyPolicy) (origin : String) : Bool :=
  policy.origins.any fun part => contains (lowercase origin).toList (lowercase part).toList

/-- The document form of a policy: every field may be missing. -/
def schema : Schema StickyPolicy :=
  .record "StickyOptions"
    (.field "stickiness" .flag (some false) <|
      .field "duration" (.word64 "u64") (some 0) <|
      .field "stickyMax" (.word32 "u32") (some 0) <|
      .field "stickyOrigins" (.list .text) (some []) .done)
    (fun (sticky, duration, limit, origins, ()) => { sticky, duration, limit, origins })
    (fun policy => (policy.sticky, policy.duration, policy.limit, policy.origins, ()))

end StickyPolicy

end ChainGateway
