/-!
# Binary floating-point numbers of 64 bits

A finite number is a sign, a significand below `2 ^ 53` and an exponent, and denotes the
significand times that power of two.  All arithmetic is exact arithmetic of natural numbers
followed by one rounding to the nearest number, where a tie goes to the even significand, so
nothing here depends on the machine.  A result beyond the greatest finite number is reported as
`none`.

`scaled` is the one place where a power of two is applied to a quotient, and `nearest?` the one
place where rounding happens; the operations only build the exact quotient they round.
-/

namespace ChainGateway.Decimal

/-- A finite number: `significand * 2 ^ exponent`, negated if `negative`. -/
structure Binary64 where
  negative : Bool
  significand : Nat
  exponent : Int
  deriving DecidableEq, Repr

namespace Binary64

/-- The exponent of the smallest positive number. -/
def leastExponent : Int := -1074

/-- The exponent of the greatest finite number. -/
def greatestExponent : Int := 971

/-- The bound on significands. -/
def significandBound : Nat := 0x20000000000000

/-- Zero with the given sign. -/
def zero (negative : Bool) : Binary64 := ⟨negative, 0, leastExponent⟩

/-- The number with the sign taken away or put back. -/
def withSign (number : Binary64) (negative : Bool) : Binary64 :=
  { number with negative }

/-- `numerator / denominator` divided by `2 ^ exponent`, as a quotient of two numbers. -/
def scaled (numerator denominator : Nat) (exponent : Int) : Nat × Nat :=
  (numerator * Nat.pow 2 (-exponent).toNat, denominator * Nat.pow 2 exponent.toNat)

/-- The exponent that leaves the quotient with 53 significant bits, or the least one. -/
def roundingExponent (numerator denominator : Nat) : Int :=
  let guess : Int := (numerator.log2 : Int) - denominator.log2 - 53
  let (top, bottom) := scaled numerator denominator guess
  max (if top / bottom < significandBound then guess else guess + 1) leastExponent

/-- The nearest natural number to a quotient, the even one of two equally near. -/
def roundQuotient (top bottom : Nat) : Nat :=
  let quotient := top / bottom
  let remainder := top % bottom
  if bottom < 2 * remainder ∨ (bottom = 2 * remainder ∧ quotient % 2 = 1) then quotient + 1
  else quotient

/-- The number nearest to `numerator / denominator`, if it is finite. -/
def nearest? (negative : Bool) (numerator denominator : Nat) : Option Binary64 :=
  if numerator = 0 then
    some (zero negative)
  else
    let exponent := roundingExponent numerator denominator
    let (top, bottom) := scaled numerator denominator exponent
    let rounded := roundQuotient top bottom
    let (significand, exponent) :=
      if rounded = significandBound then (rounded / 2, exponent + 1) else (rounded, exponent)
    if greatestExponent < exponent then none else some ⟨negative, significand, exponent⟩

/-- The magnitude as a quotient of two natural numbers. -/
def magnitude (number : Binary64) : Nat × Nat :=
  (number.significand * Nat.pow 2 number.exponent.toNat, Nat.pow 2 (-number.exponent).toNat)

/-- The number nearest to a natural number. -/
def ofNat? (number : Nat) : Option Binary64 :=
  nearest? false number 1

/-- The rounded product. -/
def mul? (first second : Binary64) : Option Binary64 :=
  let (top, bottom) := first.magnitude
  let (top', bottom') := second.magnitude
  nearest? (first.negative != second.negative) (top * top') (bottom * bottom')

/-- The rounded quotient, for a divisor other than zero. -/
def div? (first second : Binary64) : Option Binary64 :=
  let (top, bottom) := first.magnitude
  let (top', bottom') := second.magnitude
  nearest? (first.negative != second.negative) (top * bottom') (bottom * top')

/-- The greatest power of ten that is used as a factor. -/
def greatestPower : Nat := 308

/-- The number nearest to a power of ten. -/
def powerOfTen? (power : Nat) : Option Binary64 :=
  ofNat? (Nat.pow 10 power)

/-! ## Scaling by powers of ten

A decimal significand is scaled by its exponent with rounded arithmetic, one multiplication or
one division by a rounded power of ten; a divisor beyond `greatestPower` is taken apart. -/

/-- Divides again and again, until nothing is left to divide. -/
def divideRepeatedly? (divisor : Binary64) : Nat → Binary64 → Option Binary64
  | 0, number => some number
  | times + 1, number =>
      if number.significand = 0 then some number
      else (number.div? divisor).bind (divideRepeatedly? divisor times)

/-- Divides by a power of ten, in steps of at most `greatestPower`. -/
def divideByPower? (number : Binary64) (power : Nat) : Option Binary64 := do
  let times := (power - 1) / greatestPower
  let large ← powerOfTen? greatestPower
  let reduced ← divideRepeatedly? large times number
  let divisor ← powerOfTen? (power - times * greatestPower)
  reduced.div? divisor

/-- Multiplies by a power of ten; a power beyond `greatestPower` leaves the finite numbers,
unless the number is zero. -/
def multiplyByPower? (number : Binary64) (power : Nat) : Option Binary64 :=
  if greatestPower < power then
    if number.significand = 0 then some number else none
  else
    match powerOfTen? power with
    | some factor => number.mul? factor
    | none => none

/-- The number read from a decimal significand and exponent, if it is finite. -/
def ofDecimal? (negative : Bool) (significand : Nat) (exponent : Int) : Option Binary64 :=
  match ofNat? significand with
  | some number =>
      let scaled :=
        if exponent < 0 then number.divideByPower? (-exponent).toNat
        else number.multiplyByPower? exponent.toNat
      scaled.map (·.withSign negative)
  | none => none

end Binary64

end ChainGateway.Decimal
