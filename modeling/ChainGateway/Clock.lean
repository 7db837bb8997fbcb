/-!
# Time

Instants are counted in milliseconds from a start, and durations are given in whole seconds.
The clock holds instants up to a bound only.  An operation that would pass it, or that would
count beyond what a counter holds, is a `Fault`: not an error that is reported to anyone, but
the end of whoever runs into it.
-/

namespace ChainGateway

/-- Milliseconds since the start. -/
abbrev Instant := Nat

/-- The events that end whoever runs into them. -/
inductive Fault where
  /-- A time beyond the last instant of the clock. -/
  | clockOverflow
  /-- A count beyond the greatest one. -/
  | counterOverflow
  /-- More permits than there can be. -/
  | permitOverflow
  deriving DecidableEq, Repr

/-- The instants of the clock lie before this one. -/
def clockLimit : Instant := 0x8000000000000000 * 1000

/-- The instant a number of seconds later, if the clock holds it. -/
def Instant.after? (now : Instant) (seconds : Nat) : Except Fault Instant :=
  if now + 1000 * seconds < clockLimit then .ok (now + 1000 * seconds)
  else .error .clockOverflow

theorem Instant.after?_eq_ok_iff {now later : Instant} {seconds : Nat} :
    now.after? seconds = .ok later ↔
      now + 1000 * seconds < clockLimit ∧ now + 1000 * seconds = later := by
  unfold Instant.after?
  split <;> simp [*]

theorem Instant.after?_eq_error_iff {now : Instant} {seconds : Nat} {fault : Fault} :
    now.after? seconds = .error fault ↔
      fault = .clockOverflow ∧ clockLimit ≤ now + 1000 * seconds := by
  unfold Instant.after?
  split
  · next hbefore => exact iff_of_false nofun fun hafter => Nat.not_lt.mpr hafter.2 hbefore
  · next hafter => simp [Nat.not_lt.mp hafter, eq_comm]

end ChainGateway
