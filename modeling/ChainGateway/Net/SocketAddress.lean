import ChainGateway.Decimal.Digits
import ChainGateway.Text.Quoted

/-!
# Socket addresses

An address of the network layer of version 4 or 6, and an address with a port.

Version 4 is written as four decimal numbers with points, none with a leading zero.  Version 6
is written as eight groups of up to four hexadecimal digits with colons, where one run of groups
that are zero may be left out and the last two groups may be written as an address of version 4.
Printing leaves out the longest run of two or more zero groups, the first of several, and prints
the embedded version 4 form only for addresses that are mapped from version 4.
-/

namespace ChainGateway.Net

open Text

/-- An address without a port. -/
inductive IpAddress where
  | v4 (first second third fourth : UInt8)
  /-- Eight groups of sixteen bits. -/
  | v6 (groups : Vector UInt16 8)
  deriving DecidableEq, Repr

/-- An address with a port; the scope is used in version 6 only. -/
structure SocketAddress where
  ip : IpAddress
  scope : UInt32 := 0
  port : UInt16
  deriving DecidableEq, Repr

/-! ## Printing -/

/-- A number in hexadecimal digits. -/
def hexText (number : Nat) : String :=
  String.ofList (hexDigits number)

/-- Groups joined by colons. -/
def groupsText (groups : List UInt16) : String :=
  ":".intercalate (groups.map fun group => hexText group.toNat)

/-- How many groups from the first on are zero. -/
def zerosAhead : List UInt16 → Nat
  | [] => 0
  | group :: groups => if group = 0 then zerosAhead groups + 1 else 0

/-- The longest run of zero groups, as its place and its length; the first of several. -/
def longestZeros (place : Nat) : List UInt16 → Nat × Nat
  | [] => (place, 0)
  | group :: groups =>
      let ahead := zerosAhead (group :: groups)
      let later := longestZeros (place + 1) groups
      if later.2 ≤ ahead then (place, ahead) else later

/-- The groups of an address of version 6 as text. -/
def v6Text (groups : List UInt16) : String :=
  let (place, length) := longestZeros 0 groups
  if 1 < length then
    groupsText (groups.take place) ++ "::" ++ groupsText (groups.drop (place + length))
  else
    groupsText groups

/-- Four octets with points between them. -/
def v4Text (octets : List Nat) : String :=
  ".".intercalate (octets.map Decimal.text)

/-- The canonical text of an address. -/
def IpAddress.text : IpAddress → String
  | .v4 first second third fourth =>
      v4Text [first.toNat, second.toNat, third.toNat, fourth.toNat]
  | .v6 groups =>
      match groups.toList with
      | [0, 0, 0, 0, 0, 0xFFFF, high, low] =>
          "::ffff:" ++ v4Text [high.toNat / 256, high.toNat % 256, low.toNat / 256,
            low.toNat % 256]
      | groups => v6Text groups

/-- The canonical text of an address with a port. -/
def SocketAddress.text (address : SocketAddress) : String :=
  let port := Decimal.text address.port.toNat
  match address.ip with
  | .v4 .. => address.ip.text ++ ":" ++ port
  | .v6 _ =>
      let scope :=
        if address.scope = 0 then "" else "%" ++ Decimal.text address.scope.toNat
      "[" ++ address.ip.text ++ scope ++ "]:" ++ port

/-! ## Reading

Readers take the characters that are left and return what they read with the characters after
it.  A reader that fails takes nothing. -/

/-- The value of a digit in bases up to sixteen. -/
def digitValue? (base : Nat) (char : Char) : Option Nat :=
  let value :=
    if '0' ≤ char ∧ char ≤ '9' then some (char.toNat - '0'.toNat)
    else if 'a' ≤ char ∧ char ≤ 'f' then some (char.toNat - 'a'.toNat + 10)
    else if 'A' ≤ char ∧ char ≤ 'F' then some (char.toNat - 'A'.toNat + 10)
    else none
  value.filter (· < base)

/-- Reads all digits that come next: their number and the value they denote. -/
def readDigits (base count value : Nat) : List Char → Nat × Nat × List Char
  | [] => (count, value, [])
  | char :: rest =>
      match digitValue? base char with
      | some digit => readDigits base (count + 1) (value * base + digit) rest
      | none => (count, value, char :: rest)

/-- Reads a number below a bound, with at least one digit and at most so many, if there is a
limit, and a leading zero only where it is allowed. -/
def readNumber? (base bound : Nat) (limit? : Option Nat) (leadingZero : Bool)
    (chars : List Char) : Option (Nat × List Char) :=
  let (count, value, rest) := readDigits base 0 0 chars
  let tooLong := limit?.any (· < count)
  let zeroAhead := !leadingZero && decide (1 < count) && chars.head? == some '0'
  if count = 0 ∨ tooLong ∨ zeroAhead ∨ bound ≤ value then none else some (value, rest)

/-- Reads one particular character. -/
def readChar? (expected : Char) : List Char → Option (List Char)
  | [] => none
  | char :: rest => if char = expected then some rest else none

/-- Reads an octet of an address of version 4. -/
def readOctet? (chars : List Char) : Option (Nat × List Char) :=
  readNumber? 10 256 (some 3) false chars

/-- Reads an address of version 4. -/
def readV4? (chars : List Char) : Option ((Nat × Nat × Nat × Nat) × List Char) := do
  let (first, chars) ← readOctet? chars
  let (second, chars) ← readOctet? (← readChar? '.' chars)
  let (third, chars) ← readOctet? (← readChar? '.' chars)
  let (fourth, chars) ← readOctet? (← readChar? '.' chars)
  return ((first, second, third, fourth), chars)

/-- Reads the colon between two groups; there is none before the first. -/
def readColon? (first : Bool) (chars : List Char) : Option (List Char) :=
  if first then some chars else readChar? ':' chars

/-- Reads up to `limit` groups.  Where there is room for two, an address of version 4 may stand
for them; then no more groups follow, and the second result is true. -/
def readGroups (first : Bool) : Nat → List Char → List Nat × Bool × List Char
  | 0, chars => ([], false, chars)
  | limit + 1, chars =>
      let embedded? :=
        if limit = 0 then none else (readColon? first chars).bind readV4?
      match embedded? with
      | some ((a, b, c, d), rest) => ([a * 256 + b, c * 256 + d], true, rest)
      | none =>
          match (readColon? first chars).bind (readNumber? 16 0x10000 (some 4) true) with
          | some (group, rest) =>
              let (groups, embedded, rest) := readGroups false limit rest
              (group :: groups, embedded, rest)
          | none => ([], false, chars)

/-- An address of version 6 from its groups. -/
def ofGroups (groups : List Nat) : IpAddress :=
  .v6 (Vector.ofFn fun index => (groups.getD index.val 0).toUInt16)

/-- Reads an address of version 6. -/
def readV6? (chars : List Char) : Option (IpAddress × List Char) :=
  let (head, embedded, rest) := readGroups true 8 chars
  if head.length = 8 then some (ofGroups head, rest)
  else if embedded then none
  else do
    let rest ← readChar? ':' (← readChar? ':' rest)
    let (tail, _, rest) := readGroups true (7 - head.length) rest
    let zeros := List.replicate (8 - head.length - tail.length) 0
    return (ofGroups (head ++ zeros ++ tail), rest)

/-- Reads a colon and a port. -/
def readPort? (chars : List Char) : Option (UInt16 × List Char) := do
  let (port, rest) ← readNumber? 10 0x10000 none true (← readChar? ':' chars)
  return (port.toUInt16, rest)

/-- Reads the scope of an address of version 6, which is zero where none is given. -/
def readScope (chars : List Char) : UInt32 × List Char :=
  match (readChar? '%' chars).bind (readNumber? 10 UInt32.size none true) with
  | some (scope, rest) => (scope.toUInt32, rest)
  | none => (0, chars)

/-- Reads an address of version 4 with a port. -/
def readSocketV4? (chars : List Char) : Option (SocketAddress × List Char) := do
  let ((a, b, c, d), rest) ← readV4? chars
  let (port, rest) ← readPort? rest
  return ({ ip := .v4 a.toUInt8 b.toUInt8 c.toUInt8 d.toUInt8, port }, rest)

/-- Reads an address of version 6 in brackets with a port. -/
def readSocketV6? (chars : List Char) : Option (SocketAddress × List Char) := do
  let (ip, rest) ← readV6? (← readChar? '[' chars)
  let (scope, rest) := readScope rest
  let (port, rest) ← readPort? (← readChar? ']' rest)
  return ({ ip, scope, port }, rest)

/-- The address with a port that the whole text denotes. -/
def SocketAddress.ofText? (text : String) : Option SocketAddress :=
  let chars := text.toList
  match readSocketV4? chars, readSocketV6? chars with
  | some (address, []), _ => some address
  | some _, _ => none
  | none, some (address, []) => some address
  | none, _ => none

end ChainGateway.Net
