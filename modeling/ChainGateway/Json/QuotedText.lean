import ChainGateway.Json.Reading

/-!
# Texts of a document

A text stands between quote marks.  A backslash introduces a character by a letter or by its
sixteen-bit units in hexadecimal; two units of a surrogate pair denote one character.  All other
characters stand for themselves and are encoded in UTF-8, control characters excepted.

A text whose contents do not matter is passed over by `skipText`, which asks less: its octets
need not be UTF-8 and its surrogates need not be paired.
-/

namespace ChainGateway.Json

open Text

/-- The value of a hexadecimal digit, in either case. -/
def hexValue? (octet : UInt8) : Option Nat :=
  if isDigit octet then some (digitValue octet)
  else if 'a'.toNat ≤ octet.toNat ∧ octet.toNat ≤ 'f'.toNat then
    some (octet.toNat - 'a'.toNat + 10)
  else if 'A'.toNat ≤ octet.toNat ∧ octet.toNat ≤ 'F'.toNat then
    some (octet.toNat - 'A'.toNat + 10)
  else none

/-- The number that four hexadecimal digits denote. -/
def hexUnit? (first second third fourth : UInt8) : Option Nat := do
  let first ← hexValue? first
  let second ← hexValue? second
  let third ← hexValue? third
  let fourth ← hexValue? fourth
  return ((first * 16 + second) * 16 + third) * 16 + fourth

/-- Reads a sixteen-bit unit. -/
def readUnit : Octets → Reading Nat
  | first :: second :: third :: fourth :: rest =>
      match hexUnit? first second third fourth with
      | some unit => .ok (unit, rest)
      | none => stop .invalidEscape rest
  | _ => stop .endInText []

/-- Is the unit the first one of a surrogate pair? -/
def isLeading (unit : Nat) : Bool :=
  decide (0xD800 ≤ unit) && decide (unit ≤ 0xDBFF)

/-- Is the unit the second one of a surrogate pair? -/
def isTrailing (unit : Nat) : Bool :=
  decide (0xDC00 ≤ unit) && decide (unit ≤ 0xDFFF)

/-- The character that a surrogate pair denotes. -/
def joinSurrogates (leading trailing : Nat) : Char :=
  Char.ofNat (0x10000 + (leading - 0xD800) * 0x400 + (trailing - 0xDC00))

/-- Passes over one particular octet between the units of a surrogate pair. -/
def readPairMark (mark : Char) : Octets → Except Stop Octets
  | [] => stop .endInText []
  | octet :: rest => if octet = mark.toUInt8 then .ok rest else stop .unfinishedSurrogate rest

/-- Reads the character that is given by one or two units. -/
def readUnits (rest : Octets) : Except Stop (Char × Octets) := do
  let (unit, rest) ← readUnit rest
  if isTrailing unit then
    stop .loneSurrogate rest
  else if isLeading unit then
    let rest ← readPairMark '\\' rest
    let rest ← readPairMark 'u' rest
    let (second, rest) ← readUnit rest
    if isTrailing second then .ok (joinSurrogates unit second, rest)
    else stop .loneSurrogate rest
  else
    .ok (Char.ofNat unit, rest)

/-- The character that a letter after the backslash denotes. -/
def namedEscape? (octet : UInt8) : Option Char :=
  if octet = '"'.toUInt8 then some '"'
  else if octet = '\\'.toUInt8 then some '\\'
  else if octet = '/'.toUInt8 then some '/'
  else if octet = 'b'.toUInt8 then some (Char.ofNat 0x08)
  else if octet = 'f'.toUInt8 then some (Char.ofNat 0x0C)
  else if octet = 'n'.toUInt8 then some '\n'
  else if octet = 'r'.toUInt8 then some '\r'
  else if octet = 't'.toUInt8 then some '\t'
  else none

/-- Reads what follows a backslash. -/
def readEscape : Octets → Reading Char
  | [] => stop .endInText []
  | octet :: rest =>
      match namedEscape? octet with
      | some char => .ok (char, rest)
      | none => if octet = 'u'.toUInt8 then readUnits rest else stop .invalidEscape rest

/-- Reads a text from behind its opening quote, one character per step; `done` holds the
characters already read, the last one first. -/
def readChars : Nat → List Char → Octets → Reading String
  | 0, _, rest => stop .endInText rest
  | _ + 1, _, [] => stop .endInText []
  | steps + 1, done, octet :: tail =>
      if octet = '"'.toUInt8 then
        .ok (String.ofList done.reverse, tail)
      else if octet = '\\'.toUInt8 then
        match readEscape tail with
        | .error problem => .error problem
        | .ok (char, rest) => readChars steps (char :: done) rest
      else if octet.toNat < 0x20 then
        stop .controlCharacter tail
      else
        match Utf8.next (octet :: tail) with
        | .scalar char rest => readChars steps (char :: done) rest
        | _ => stop .invalidCodePoint tail

/-- Passes over a text from behind its opening quote. -/
def skipText : Octets → Except Stop Octets
  | [] => stop .endInText []
  | octet :: tail =>
      if octet = '"'.toUInt8 then
        .ok tail
      else if octet = '\\'.toUInt8 then
        match tail with
        | [] => stop .endInText []
        | escape :: tail =>
            if (namedEscape? escape).isSome then skipText tail
            else if escape = 'u'.toUInt8 then
              match tail with
              | first :: second :: third :: fourth :: tail =>
                  if (hexUnit? first second third fourth).isSome then skipText tail
                  else stop .invalidEscape tail
              | _ => stop .endInText []
            else stop .invalidEscape tail
      else if octet.toNat < 0x20 then
        stop .controlCharacter (octet :: tail)
      else
        skipText tail

end ChainGateway.Json
