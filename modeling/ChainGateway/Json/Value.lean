import ChainGateway.Decimal.Shortest
import ChainGateway.Text.Quoted

/-!
# Documents as values

A JSON document denotes a value: null, a truth value, a number, a text, a list of values or an
object.  Objects keep their members ordered by name, each name once, so two documents that
differ only in the order of members, or in members that are overwritten later, denote the same
value.

A value is written in the compact form: no blanks, texts with the fewest escapes, integers in
full and other numbers by the shortest decimal that reads back.
-/

namespace ChainGateway.Json

open Decimal Text

/-- A number: an integer as written, or a floating-point number. -/
inductive Number where
  | integer (value : Int)
  | real (value : Binary64)
  deriving DecidableEq, Repr

/-- The value that a document denotes. -/
inductive Value where
  | null
  | bool (value : Bool)
  | number (value : Number)
  | text (value : String)
  | array (elements : List Value)
  | object (members : List (String × Value))
  deriving Repr, BEq, Inhabited

/-- Puts a member in its place among members ordered by name; a member of the same name gives
way. -/
def insertMember (name : String) (value : Value) :
    List (String × Value) → List (String × Value)
  | [] => [(name, value)]
  | (other, kept) :: rest =>
      if name < other then (name, value) :: (other, kept) :: rest
      else if name = other then (name, value) :: rest
      else (other, kept) :: insertMember name value rest

namespace Value

/-- An object with the given members, the last of several with one name taken. -/
def ofMembers (members : List (String × Value)) : Value :=
  .object (members.foldl (fun known member => insertMember member.1 member.2 known) [])

/-- The member of an object with the given name. -/
def member? (name : String) : Value → Option Value
  | .object members => members.lookup name
  | _ => none

/-- A natural number as a value. -/
def ofNat (value : Nat) : Value := .number (.integer value)

/-- The integer that the value is, if it is one that a signed word of 64 bits holds. -/
def signedWord? : Value → Option Int
  | .number (.integer value) =>
      if Int64.minValue.toInt ≤ value ∧ value ≤ Int64.maxValue.toInt then some value else none
  | _ => none

end Value

/-! ## Writing numbers -/

/-- Decimal exponents from this one on are written with a point after them, up to
`greatestPlain`; all others with a power of ten. -/
def leastPlain : Int := -5

/-- The greatest decimal exponent that is written without a power of ten. -/
def greatestPlain : Int := 15

/-- The digits of a decimal number placed around the point: always with a digit before and a
digit after it. -/
def plainChars (digits : List Char) (leading : Int) : List Char :=
  if leading < 0 then
    ['0', '.'] ++ List.replicate (-leading - 1).toNat '0' ++ digits
  else
    let whole := leading.toNat + 1
    if digits.length ≤ whole then
      digits ++ List.replicate (whole - digits.length) '0' ++ ['.', '0']
    else
      digits.take whole ++ ['.'] ++ digits.drop whole

/-- One digit before the point, the others after it, and the power of ten with its sign. -/
def scientificChars (digits : List Char) (leading : Int) : List Char :=
  let sign := if leading < 0 then '-' else '+'
  let fraction := if digits.length ≤ 1 then [] else '.' :: digits.drop 1
  digits.take 1 ++ fraction ++ ['e', sign] ++ Decimal.digits leading.natAbs

/-- A floating-point number by the shortest decimal that reads back. -/
def realChars (number : Binary64) : List Char :=
  let magnitude :=
    if number.significand = 0 then ['0', '.', '0']
    else
      let decimal := number.shortest
      let digits := Decimal.digits decimal.significand
      let leading := decimal.exponent + digits.length - 1
      if leastPlain ≤ leading ∧ leading ≤ greatestPlain then plainChars digits leading
      else scientificChars digits leading
  if number.negative then '-' :: magnitude else magnitude

/-- The characters of a number. -/
def Number.chars : Number → List Char
  | .integer value => integerChars value
  | .real value => realChars value

/-! ## Writing texts -/

/-- One character within a text: the quote mark and the backslash after a backslash, control
characters by a letter or by four hexadecimal digits, all others as they are. -/
def escapeChar (char : Char) : List Char :=
  if char = '"' then ['\\', '"']
  else if char = '\\' then ['\\', '\\']
  else if char.toNat = 0x08 then ['\\', 'b']
  else if char = '\t' then ['\\', 't']
  else if char = '\n' then ['\\', 'n']
  else if char.toNat = 0x0C then ['\\', 'f']
  else if char = '\r' then ['\\', 'r']
  else if char.toNat < 0x20 then
    ['\\', 'u', '0', '0', hexDigit (char.toNat / 16), hexDigit (char.toNat % 16)]
  else [char]

/-- The characters of a text with its quote marks. -/
def textChars (text : String) : List Char :=
  '"' :: (text.toList.flatMap escapeChar ++ ['"'])

/-! ## Writing values -/

/-- Puts characters in front of an output that is held with its last character first. -/
def push (out chars : List Char) : List Char :=
  chars.reverseAux out

mutual

/-- Writes a value after the output so far, which is held with its last character first. -/
def Value.write (out : List Char) : Value → List Char
  | .null => push out ['n', 'u', 'l', 'l']
  | .bool true => push out ['t', 'r', 'u', 'e']
  | .bool false => push out ['f', 'a', 'l', 's', 'e']
  | .number number => push out number.chars
  | .text text => push out (textChars text)
  | .array [] => push out ['[', ']']
  | .array (element :: elements) =>
      ']' :: writeElements (element.write ('[' :: out)) elements
  | .object [] => push out ['\x7b', '\x7d']
  | .object ((name, value) :: members) =>
      '\x7d' :: writeMembers (value.write (':' :: push ('\x7b' :: out) (textChars name))) members

/-- Writes further elements of a list. -/
def writeElements (out : List Char) : List Value → List Char
  | [] => out
  | element :: elements => writeElements (element.write (',' :: out)) elements

/-- Writes further members of an object. -/
def writeMembers (out : List Char) : List (String × Value) → List Char
  | [] => out
  | (name, value) :: members =>
      writeMembers (value.write (':' :: push (',' :: out) (textChars name))) members

end

/-- The value in compact form. -/
def Value.chars (value : Value) : List Char :=
  (value.write []).reverse

/-- The value in compact form. -/
def Value.render (value : Value) : String :=
  String.ofList value.chars

end ChainGateway.Json
