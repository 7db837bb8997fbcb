import ChainGateway.Affinity.Counter
import ChainGateway.Affinity.Key
import ChainGateway.Config
import ChainGateway.Table

/-!
# Affinity between callers and nodes

The cache remembers for each caller the application and the node it was last served by.  An
entry has one counter for relays that succeeded and one for those that failed, each with a
window of its own.  A report that takes a counter past its limit drops the whole entry.

A request first resolves its affinity: the policy in effect, its key, and what the cache knows
about the key.  Whoever has no right to stickiness gets details with an empty policy, and
reports made with such details change nothing.  Later the request reports its outcome with these
details.  What the cache knows by then takes precedence over what the details say, except for
preferences that the entry does not have yet.
-/

namespace ChainGateway.Affinity

/-- What is remembered about a caller.  An empty preference is none. -/
structure Preference where
  application : String := ""
  node : String := ""
  relays : Counter := {}
  errors : Counter := {}
  deriving DecidableEq, Repr, Inhabited

namespace Preference

/-- Is there neither a preferred application nor a preferred node? -/
def isEmpty (preference : Preference) : Bool :=
  preference.application = "" && preference.node = ""

/-- Is this the address of the preferred node? -/
def prefersNode (preference : Preference) (address : String) : Bool :=
  preference.node ≠ "" && preference.node = address

/-- The preference with both counters as they are before any event. -/
def withoutCounts (preference : Preference) : Preference :=
  { preference with relays := {}, errors := {} }

/-- The preference, with what it lacks taken from another one. -/
def orElse (preference other : Preference) : Preference :=
  { preference with
    application := if preference.application = "" then other.application
      else preference.application
    node := if preference.node = "" then other.node else preference.node }

end Preference

/-- The affinity of one request. -/
structure Details where
  key : Key := {}
  policy : StickyPolicy := {}
  preference : Preference := {}
  deriving DecidableEq, Repr, Inhabited

/-- How a relay ended. -/
inductive Outcome where
  | success
  | failure
  deriving DecidableEq, Repr, Inhabited

/-- What the gateway remembers about callers. -/
structure Cache where
  settings : StickySettings := {}
  /-- What is handed out where the policy in effect disables stickiness. -/
  defaultPreference : Preference := {}
  items : Table Key Preference := .empty
  deriving Inhabited

namespace Cache

/-- The preference under a key. -/
def find? (cache : Cache) (key : Key) : Option Preference :=
  cache.items.find? key

/-- The number of callers remembered. -/
def size (cache : Cache) : Nat := cache.items.size

/-! ## Resolving -/

/-- The policy in effect: the given one, or the default if the given one is empty. -/
def effectivePolicy (cache : Cache) (policy : StickyPolicy) : StickyPolicy :=
  if policy.isEmpty then cache.settings.defaultPolicy else policy

/-- Resolved details, and for which policy the key was asked for and the origin verified, if
they were. -/
structure Resolution where
  details : Details
  keyAsked? : Option StickyPolicy
  originAsked? : Option StickyPolicy

/-- Resolves the affinity of a request: its key and whether its origin is allowed may depend on
the policy in effect. -/
def resolve (cache : Cache) (policy : StickyPolicy) (keyOf : StickyPolicy → Key)
    (allows : StickyPolicy → Bool) : Resolution :=
  let policy := cache.effectivePolicy policy
  if policy.isEmpty then
    ⟨{ preference := cache.defaultPreference }, none, none⟩
  else if (keyOf policy).isEmpty then
    ⟨{}, some policy, none⟩
  else if allows policy then
    ⟨{ key := keyOf policy, policy, preference := (cache.find? (keyOf policy)).getD {} },
      some policy, some policy⟩
  else
    ⟨{}, some policy, some policy⟩

/-! ## Reporting -/

/-- The preference that a report counts on: what the cache knows, completed by the details, or
else what the details say, with nothing counted yet. -/
def settle (cache : Cache) (details : Details) : Preference :=
  match cache.find? details.key with
  | some known => known.orElse details.preference
  | none => details.preference.withoutCounts

/-- Counts an outcome; returns the new count and the limit it must not pass. -/
def count (settings : StickySettings) (preference : Preference) (now : Instant) :
    Outcome → Except Fault (Preference × UInt32 × UInt32)
  | .success =>
      (preference.relays.increment now settings.window).map fun relays =>
        ({ preference with relays }, relays.count, settings.relayLimit)
  | .failure =>
      (preference.errors.increment now settings.window).map fun errors =>
        ({ preference with errors }, errors.count, settings.errorLimit)

/-- Reports the outcome of a request.  Returns the cache and the details as they are then. -/
def report (cache : Cache) (details : Details) (outcome : Outcome) (now : Instant) :
    Except Fault (Cache × Details) :=
  if details.policy.isEmpty then
    .ok (cache, details)
  else
    match count cache.settings (cache.settle details) now outcome with
    | .error fault => .error fault
    | .ok (preference, counted, limit) =>
        let items :=
          -- The limit itself may be reached, only one more drops the caller.
          if limit < counted then cache.items.erase details.key
          else cache.items.insert details.key preference
        .ok ({ cache with items }, { details with preference })

end Cache

end ChainGateway.Affinity
