/-!
# Labels of host names beyond the basic alphabet

A label with characters beyond the basic alphabet is written as its basic characters, followed
by the places and code points of the others as differences in a variable-length number system
with base 36.  The thresholds between digits adapt to the size of the differences seen so far
(RFC 3492).
-/

namespace ChainGateway.Net.Punycode

/-- A digit in base 36: the letters first. -/
def digit (value : Nat) : Char :=
  if value < 26 then Char.ofNat ('a'.toNat + value) else Char.ofNat ('0'.toNat + (value - 26))

/-- The threshold of a digit, given how far it lies from the bias. -/
def threshold (place bias : Nat) : Nat :=
  min 26 (max 1 (place - bias))

/-- The bias after a difference has been written. -/
def adapt (first : Bool) (difference count : Nat) : Nat :=
  let scaled := if first then difference / 700 else difference / 2
  reduce 0 (scaled + scaled / count)
where
  /-- Reduces a difference until it is small. -/
  reduce (shift value : Nat) : Nat :=
    if 455 < value then reduce (shift + 36) (value / 35) else shift + 36 * value / (value + 38)
  termination_by value
  decreasing_by exact Nat.div_lt_self (by omega) (by omega)

theorem one_le_threshold (place bias : Nat) : 1 ≤ threshold place bias := by
  simp only [threshold]
  omega

/-- The digits of a difference. -/
def digits (place bias value : Nat) : List Char :=
  if value < threshold place bias then [digit value]
  else
    let excess := value - threshold place bias
    digit (threshold place bias + excess % (36 - threshold place bias)) ::
      digits (place + 36) bias (excess / (36 - threshold place bias))
termination_by value
decreasing_by
  have hone := one_le_threshold place bias
  have hle := Nat.div_le_self (value - threshold place bias) (36 - threshold place bias)
  omega

/-- How encoding stands: the characters written, the difference that is pending, the bias and
the number of characters handled. -/
structure Progress where
  written : List Char
  difference : Nat
  bias : Nat
  handled : Nat

/-- Handles the character at one place while code point `code` is being inserted. -/
def insertAt (code basics : Nat) (progress : Progress) (char : Char) : Progress :=
  if char.toNat < code then { progress with difference := progress.difference + 1 }
  else if char.toNat = code then
    { written := progress.written ++ digits 36 progress.bias progress.difference
      difference := 0
      bias := adapt (progress.handled = basics) progress.difference (progress.handled + 1)
      handled := progress.handled + 1 }
  else progress

/-- Inserts the code points in ascending order; `code` is the least one not yet inserted. -/
def insertAll (chars : List Char) (basics : Nat) : Nat → Nat → Progress → List Char
  | 0, _, progress => progress.written
  | fuel + 1, code, progress =>
      match ((chars.map Char.toNat).filter (code ≤ ·)).min? with
      | none => progress.written
      | some next =>
          let difference := progress.difference + (next - code) * (progress.handled + 1)
          let progress := chars.foldl (insertAt next basics) { progress with difference }
          insertAll chars basics fuel (next + 1)
            { progress with difference := progress.difference + 1 }

/-- The encoded form of a label. -/
def encode (chars : List Char) : List Char :=
  let basic := chars.filter fun char => char.toNat < 0x80
  let start := if basic.isEmpty then [] else basic ++ ['-']
  insertAll chars basic.length chars.length 0x80
    { written := start, difference := 0, bias := 72, handled := basic.length }

end ChainGateway.Net.Punycode
