import ChainGateway.Decimal.Binary64
import ChainGateway.Decimal.Digits

/-!
# The shortest decimal that reads back

A floating-point number is shown by the fewest digits of a decimal number that rounds to it,
and among those of the same length by the nearest one.

The decimals that round to a number form an interval whose ends lie half way to its neighbours;
the ends belong to it when the significand is even.  For one digit, two digits, and so on, the
two points of the decimal grid next to the number are tested; the first grid with a point in
the interval gives the answer.  Seventeen digits always suffice.
-/

namespace ChainGateway.Decimal

/-- A decimal number `significand * 10 ^ exponent`. -/
structure DecimalNumber where
  significand : Nat
  exponent : Int
  deriving DecidableEq, Repr

/-- The number without trailing zeros in its significand. -/
def DecimalNumber.trimmed (number : DecimalNumber) : DecimalNumber :=
  if number.significand ≠ 0 ∧ number.significand % 10 = 0 then
    trimmed ⟨number.significand / 10, number.exponent + 1⟩
  else number
termination_by number.significand
decreasing_by omega

namespace Binary64

/-- Four times the significand of a number with the two ends of its interval, all counted in
quarters of the last place.  Below a power of two the neighbour is only half as far away. -/
def interval (number : Binary64) : Nat × Nat × Nat :=
  let quarters := 4 * number.significand
  let below :=
    if number.significand = significandBound / 2 ∧ leastExponent < number.exponent then 1 else 2
  (quarters - below, quarters, quarters + 2)

/-- The decimal exponent of the leading digit of `top / bottom`. -/
def leadingExponent (top bottom : Nat) : Int :=
  if bottom ≤ top then
    (digitCount (top / bottom) : Int) - 1
  else
    -(digitCount ((bottom + top - 1) / top - 1) : Int)

/-- A point of the grid of numbers with `count` digits that lies in the interval, the nearer
one of two, and the even one of two equally near. -/
def gridPoint? (number : Binary64) (count : Nat) : Option DecimalNumber :=
  let (low, middle, high) := number.interval
  let twos := number.exponent - 2
  let up := Nat.pow 2 twos.toNat
  let down := Nat.pow 2 (-twos).toNat
  let exponent := leadingExponent (middle * up) down - count + 1
  let up := up * Nat.pow 10 (-exponent).toNat
  let down := down * Nat.pow 10 exponent.toNat
  let closed := number.significand % 2 = 0
  let holds (point : Nat) : Bool :=
    if closed then decide (low * up ≤ point * down) && decide (point * down ≤ high * up)
    else decide (low * up < point * down) && decide (point * down < high * up)
  let floor := middle * up / down
  let rest := middle * up % down
  match holds floor, holds (floor + 1) with
  | true, true =>
      if 2 * rest < down ∨ (2 * rest = down ∧ floor % 2 = 0) then some ⟨floor, exponent⟩
      else some ⟨floor + 1, exponent⟩
  | true, false => some ⟨floor, exponent⟩
  | false, true => some ⟨floor + 1, exponent⟩
  | false, false => none

/-- Tries grids with `count` digits and more. -/
def shortestFrom (number : Binary64) : Nat → Nat → DecimalNumber
  | 0, _ => ⟨0, 0⟩
  | fuel + 1, count =>
      match number.gridPoint? count with
      | some point => point
      | none => shortestFrom number fuel (count + 1)

/-- The shortest decimal that reads back as the number's magnitude, for a number other than
zero. -/
def shortest (number : Binary64) : DecimalNumber :=
  (shortestFrom number 17 1).trimmed

end Binary64

end ChainGateway.Decimal
