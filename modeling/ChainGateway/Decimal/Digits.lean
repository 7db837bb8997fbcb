/-!
# Decimal digits of natural numbers

A number is written with the fewest digits, the most significant first, and read back by
folding the digits from the left.  The writing recurses on the quotient by ten, so that each
step of a proof about it peels off the last digit.
-/

namespace ChainGateway.Decimal

/-- The character of a single digit. -/
def digitChar (digit : Nat) : Char :=
  Char.ofNat (0x30 + digit)

/-- The digits of a number without leading zeros; zero is written with one digit. -/
def digits (number : Nat) : List Char :=
  if number < 10 then [digitChar number]
  else digits (number / 10) ++ [digitChar (number % 10)]
termination_by number
decreasing_by omega

/-- How many digits the number is written with. -/
def digitCount (number : Nat) : Nat :=
  (digits number).length

/-- The number as text. -/
def text (number : Nat) : String :=
  String.ofList (digits number)

/-- An integer as a list of characters, with a minus sign if it is negative. -/
def integerChars : Int → List Char
  | .ofNat number => digits number
  | .negSucc number => '-' :: digits (number + 1)

end ChainGateway.Decimal
