import ChainGateway.Clock
import ChainGateway.Config
import ChainGateway.Entity.Session
import ChainGateway.Table

/-!
# The session cache

Sessions are kept by the public key and the chain they were dispatched for, each until its
lifetime has passed.  The cache is looked up first; only when it holds no live session is one
dispatched and inserted.  Between the two the cache may change, so looking up and inserting are
separate operations here, and whoever asks for a session combines them.

The number of entries is bounded.  Inserting a new key into a full cache first sweeps the
entries that have expired; if live ones remain, the one closest to its end is dropped.
-/

namespace ChainGateway

/-- What a session was dispatched for. -/
structure SessionKey where
  publicKey : String
  chain : String
  deriving DecidableEq, Repr, Inhabited

/-- A session and the instant from which it is no longer served. -/
structure SessionEntry where
  session : Session
  expiresAt : Instant
  deriving DecidableEq, Repr, Inhabited

/-- Has the session's lifetime passed? -/
def SessionEntry.isExpired (entry : SessionEntry) (now : Instant) : Bool :=
  decide (entry.expiresAt ≤ now)

/-- The sessions that are kept. -/
structure SessionCache where
  settings : SessionSettings := {}
  entries : Table SessionKey SessionEntry := .empty
  deriving Inhabited

namespace SessionCache

/-- The number of sessions kept, live or not. -/
def size (cache : SessionCache) : Nat := cache.entries.size

/-- The live session under a key. -/
def lookup (cache : SessionCache) (key : SessionKey) (now : Instant) : Option Session :=
  match cache.entries.find? key with
  | some entry => if entry.isExpired now then none else some entry.session
  | none => none

/-- The entry that ends first, and the first of several. -/
def soonest? : List (SessionKey × SessionEntry) → Option (SessionKey × SessionEntry)
  | [] => none
  | entry :: entries =>
      match soonest? entries with
      | some other => if other.2.expiresAt < entry.2.expiresAt then some other else some entry
      | none => some entry

/-- Makes room: sweeps what has expired, and drops the entry that ends first if any is left. -/
def evict (entries : Table SessionKey SessionEntry) (now : Instant) :
    Table SessionKey SessionEntry :=
  let live := entries.filter fun _ entry => !entry.isExpired now
  -- One is dropped also where the sweep has made room already.
  match soonest? live.entries with
  | some (key, _) => live.erase key
  | none => live

/-- The entries once there is room for one under the key. -/
def roomFor (cache : SessionCache) (key : SessionKey) (now : Instant) :
    Table SessionKey SessionEntry :=
  if cache.entries.contains key = false ∧ cache.settings.capacity.toNat ≤ cache.size then
    evict cache.entries now
  else cache.entries

/-- Keeps a session that was just dispatched. -/
def insert (cache : SessionCache) (key : SessionKey) (session : Session) (now : Instant) :
    Except Fault SessionCache :=
  (now.after? cache.settings.lifetime.toNat).map fun expiresAt =>
    -- There is always a place for the new session, also in a cache that may hold none.
    { cache with entries := (cache.roomFor key now).insert key { session, expiresAt } }

end SessionCache

end ChainGateway
