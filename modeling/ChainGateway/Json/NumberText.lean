import ChainGateway.Json.Reading

/-!
# Numbers of a document

An integer that a machine word of 64 bits holds, signed if it is negative, is kept exactly.
Every other number is a floating-point number: the digits are gathered in one word for as long
as they fit, further digits count only by their place, and the result is scaled by a power of
ten.  A number beyond the greatest floating-point number is refused.

A number whose value does not matter is passed over by `skipNumber`, whatever its size.
-/

namespace ChainGateway.Json

open Decimal Text

/-- The greatest significand that is gathered exactly. -/
def greatestSignificand : Nat := UInt64.size - 1

/-- The greatest exponent that is gathered exactly. -/
def greatestPower : Nat := 0x7FFFFFFF

/-- Appends digits to a significand for as long as it stays within the bound.  Returns the
significand, the number of digits appended and the octets from the first one that was not. -/
def appendDigits (bound significand count : Nat) : Octets → Nat × Nat × Octets
  | [] => (significand, count, [])
  | octet :: rest =>
      if isDigit octet ∧ significand * 10 + digitValue octet ≤ bound then
        appendDigits bound (significand * 10 + digitValue octet) (count + 1) rest
      else
        (significand, count, octet :: rest)

/-- Passes over digits and counts them. -/
def skipDigits (count : Nat) : Octets → Nat × Octets
  | [] => (count, [])
  | octet :: rest =>
      if isDigit octet then skipDigits (count + 1) rest else (count, octet :: rest)

/-- Does a digit come next? -/
def startsWithDigit : Octets → Bool
  | [] => false
  | octet :: _ => isDigit octet

/-- Does the octet introduce an exponent? -/
def isExponentMark (octet : UInt8) : Bool :=
  octet = 'e'.toUInt8 || octet = 'E'.toUInt8

/-- The floating-point number with the given decimal parts, which ends here. -/
def finishReal (negative : Bool) (significand : Nat) (exponent : Int) (rest : Octets) :
    Reading Number :=
  match Binary64.ofDecimal? negative significand exponent with
  | some number => .ok (.real number, rest)
  | none => stop .numberOutOfRange rest

/-- Reads an exponent from behind its mark. -/
def readExponent (negative : Bool) (significand : Nat) (exponent : Int) (rest : Octets) :
    Reading Number :=
  let (down, rest) :=
    match rest with
    | octet :: tail =>
        if octet = '+'.toUInt8 then (false, tail)
        else if octet = '-'.toUInt8 then (true, tail)
        else (false, octet :: tail)
    | [] => (false, [])
  match rest with
  | [] => stop .endInValue []
  | octet :: tail =>
      if isDigit octet then
        let (power, _, rest) := appendDigits greatestPower (digitValue octet) 1 tail
        if startsWithDigit rest then
          if significand ≠ 0 ∧ down = false then stop .numberOutOfRange rest.tail
          else .ok (.real (Binary64.zero negative), (skipDigits 0 rest).2)
        else
          finishReal negative significand (if down then exponent - power else exponent + power)
            rest
      else stop .invalidNumber tail

/-- Reads what may follow the digits of a floating-point number. -/
def readRealEnd (negative : Bool) (significand : Nat) (exponent : Int) (rest : Octets) :
    Reading Number :=
  match rest with
  | octet :: tail =>
      if isExponentMark octet then readExponent negative significand exponent tail
      else finishReal negative significand exponent (octet :: tail)
  | [] => finishReal negative significand exponent []

/-- Reads a fraction from behind the point. -/
def readFraction (negative : Bool) (significand : Nat) (exponent : Int) (rest : Octets) :
    Reading Number :=
  let (significand, count, rest) := appendDigits greatestSignificand significand 0 rest
  if startsWithDigit rest then
    readRealEnd negative significand (exponent - count) (skipDigits 0 rest).2
  else if count = 0 then
    match rest with
    | [] => stop .endInValue []
    | _ :: tail => stop .invalidNumber tail
  else
    readRealEnd negative significand (exponent - count) rest

/-- The number of an integer significand: kept if a word holds it. -/
def finishInteger (negative : Bool) (significand : Nat) (rest : Octets) : Reading Number :=
  if negative then
    if significand = 0 ∨ UInt64.size / 2 < significand then finishReal true significand 0 rest
    else .ok (.integer (-significand), rest)
  else
    .ok (.integer significand, rest)

/-- Reads what may follow the integer part, all of whose digits are in the significand. -/
def readIntegerEnd (negative : Bool) (significand : Nat) (rest : Octets) : Reading Number :=
  match rest with
  | octet :: tail =>
      if octet = '.'.toUInt8 then readFraction negative significand 0 tail
      else if isExponentMark octet then readExponent negative significand 0 tail
      else finishInteger negative significand (octet :: tail)
  | [] => finishInteger negative significand []

/-- Reads what may follow the integer part, `exponent` of whose digits are left out. -/
def readLongEnd (negative : Bool) (significand exponent : Nat) (rest : Octets) :
    Reading Number :=
  match rest with
  | octet :: tail =>
      if octet = '.'.toUInt8 then readFraction negative significand exponent tail
      else readRealEnd negative significand exponent (octet :: tail)
  | [] => readRealEnd negative significand exponent []

/-- Reads a number from behind its sign. -/
def readNumber (negative : Bool) : Octets → Reading Number
  | [] => stop .endInValue []
  | octet :: tail =>
      if octet = '0'.toUInt8 then
        match tail with
        | next :: after =>
            if isDigit next then stop .invalidNumber after
            else readIntegerEnd negative 0 (next :: after)
        | [] => readIntegerEnd negative 0 []
      else if isDigit octet then
        let (significand, _, rest) :=
          appendDigits greatestSignificand (digitValue octet) 1 tail
        if startsWithDigit rest then
          let (exponent, rest) := skipDigits 0 rest
          readLongEnd negative significand exponent rest
        else
          readIntegerEnd negative significand rest
      else
        stop .invalidNumber tail

/-! ## Passing over numbers -/

/-- Passes over an exponent from behind its mark. -/
def skipExponent (rest : Octets) : Except Stop Octets :=
  let rest :=
    match rest with
    | octet :: tail =>
        if octet = '+'.toUInt8 ∨ octet = '-'.toUInt8 then tail else octet :: tail
    | [] => []
  match rest with
  | [] => stop .invalidNumber []
  | octet :: tail =>
      if isDigit octet then .ok (skipDigits 0 tail).2 else stop .invalidNumber tail

/-- Passes over an exponent, if there is one. -/
def skipRealEnd (rest : Octets) : Except Stop Octets :=
  match rest with
  | octet :: tail => if isExponentMark octet then skipExponent tail else .ok (octet :: tail)
  | [] => .ok []

/-- Passes over what may follow the integer part. -/
def skipIntegerEnd (rest : Octets) : Except Stop Octets :=
  match rest with
  | octet :: tail =>
      if octet = '.'.toUInt8 then
        if startsWithDigit tail then skipRealEnd (skipDigits 0 tail).2
        else stop .invalidNumber tail.tail
      else skipRealEnd (octet :: tail)
  | [] => .ok []

/-- Passes over a number from behind its sign. -/
def skipNumber : Octets → Except Stop Octets
  | [] => stop .invalidNumber []
  | octet :: tail =>
      if octet = '0'.toUInt8 then
        if startsWithDigit tail then stop .invalidNumber tail.tail else skipIntegerEnd tail
      else if isDigit octet then
        skipIntegerEnd (skipDigits 0 tail).2
      else
        stop .invalidNumber tail

end ChainGateway.Json
