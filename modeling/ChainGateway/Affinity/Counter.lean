import ChainGateway.Clock

/-!
# Counters with a window

A counter counts events within a window of time.  The first event opens the window; the first
event after its end starts the count again and opens the next one.  The end itself still belongs
to the window.
-/

namespace ChainGateway.Affinity

/-- The number of events in the current window and the window's end, if one was opened. -/
structure Counter where
  count : UInt32 := 0
  endsAt? : Option Instant := none
  deriving DecidableEq, Repr, Inhabited

namespace Counter

/-- Has the window ended? -/
def isExpired (counter : Counter) (now : Instant) : Bool :=
  counter.endsAt?.any fun endsAt => decide (endsAt < now)

/-- The counter as it stands when an event comes: empty if its window has ended. -/
def refresh (counter : Counter) (now : Instant) : Counter :=
  if counter.isExpired now then {} else counter

/-- Counts one more event. -/
def increment (counter : Counter) (now : Instant) (window : UInt64) : Except Fault Counter :=
  let counter := counter.refresh now
  if counter.count.toNat + 1 = UInt32.size then
    .error .counterOverflow
  else if counter.count = 0 then
    (now.after? window.toNat).map fun endsAt => { count := 1, endsAt? := some endsAt }
  else
    .ok { counter with count := counter.count + 1 }

end Counter

end ChainGateway.Affinity
