import ChainGateway.Json.Error

/-!
# Reading from a list of octets

A reader takes the octets that are still to be read and returns what it read together with the
octets after it, or the problem it met together with the octets after the place of the problem.
Here are the parts that all readers share: blanks, the three words, and the steps from one
element of a list, or member of an object, to the next.

Some problems are found at an octet that was only looked at.  Their place is after that octet,
so such a reader stops with the octets behind it.
-/

namespace ChainGateway.Json

open Text

/-- What a reader returns. -/
abbrev Reading (α : Type) := Except Stop (α × Octets)

/-- Stops with a problem, with these octets left. -/
def stop {α : Type} (problem : Problem) (rest : Octets) : Except Stop α :=
  .error ⟨problem, rest⟩

/-- Blank octets may stand between any two parts of a document. -/
def isBlank (octet : UInt8) : Bool :=
  octet = ' '.toUInt8 || octet = '\n'.toUInt8 || octet = '\r'.toUInt8 || octet = '\t'.toUInt8

/-- The octets from the first one that is not blank. -/
def skipBlanks (rest : Octets) : Octets :=
  rest.dropWhile isBlank

/-- Is the octet a decimal digit? -/
def isDigit (octet : UInt8) : Bool :=
  decide ('0'.toNat ≤ octet.toNat) && decide (octet.toNat ≤ '9'.toNat)

/-- The value of a digit. -/
def digitValue (octet : UInt8) : Nat :=
  octet.toNat - '0'.toNat

/-- Passes over the rest of a word. -/
def readWord : List Char → Octets → Except Stop Octets
  | [], rest => .ok rest
  | _ :: _, [] => stop .endInValue []
  | char :: word, octet :: rest =>
      if octet = char.toUInt8 then readWord word rest else stop .expectedWord rest

/-- Passes over the colon between the name and the value of a member. -/
def readColon (rest : Octets) : Except Stop Octets :=
  match skipBlanks rest with
  | [] => stop .endInObject []
  | octet :: tail => if octet = ':'.toUInt8 then .ok tail else stop .expectedColon tail

/-- Looks for another element of a list: whether there is one, with the octets at the element or
at the closing bracket. -/
def nextElement (first : Bool) (rest : Octets) : Reading Bool :=
  match skipBlanks rest with
  | [] => stop .endInList []
  | octet :: tail =>
      if octet = ']'.toUInt8 then .ok (false, octet :: tail)
      else if first then .ok (true, octet :: tail)
      else if octet = ','.toUInt8 then
        match skipBlanks tail with
        | [] => stop .endInValue []
        | octet :: tail =>
            if octet = ']'.toUInt8 then stop .trailingComma tail else .ok (true, octet :: tail)
      else stop .expectedListEnd tail

/-- Looks at the name of a member: whether there is one, with the octets after its opening
quote. -/
def nextName (rest : Octets) : Reading Bool :=
  match rest with
  | [] => stop .endInValue []
  | octet :: tail =>
      if octet = '"'.toUInt8 then .ok (true, tail)
      else if octet = '\x7d'.toUInt8 then stop .trailingComma tail
      else stop .keyNotText tail

/-- Looks for another member of an object: whether there is one, with the octets after the
opening quote of its name, or at the closing brace. -/
def nextMember (first : Bool) (rest : Octets) : Reading Bool :=
  match skipBlanks rest with
  | [] => stop .endInObject []
  | octet :: tail =>
      if octet = '\x7d'.toUInt8 then .ok (false, octet :: tail)
      else if first then nextName (octet :: tail)
      else if octet = ','.toUInt8 then nextName (skipBlanks tail)
      else stop .expectedObjectEnd tail

/-- Passes over the closing bracket of a list; nothing else may stand there. -/
def closeList (rest : Octets) : Except Stop Octets :=
  match skipBlanks rest with
  | [] => stop .endInList []
  | octet :: tail =>
      if octet = ']'.toUInt8 then .ok tail
      else if octet = ','.toUInt8 then
        match skipBlanks tail with
        | [] => stop .trailingCharacters []
        | octet :: tail =>
            stop (if octet = ']'.toUInt8 then .trailingComma else .trailingCharacters) tail
      else stop .trailingCharacters tail

/-- Passes over the closing brace of an object; nothing else may stand there. -/
def closeObject (rest : Octets) : Except Stop Octets :=
  match skipBlanks rest with
  | [] => stop .endInObject []
  | octet :: tail =>
      if octet = '\x7d'.toUInt8 then .ok tail
      else stop (if octet = ','.toUInt8 then .trailingComma else .trailingCharacters) tail

/-- The octets after a bracket or brace that is expected next, whether it stands there or not;
blanks before it are passed over in any case. -/
def afterClosing (closing : Char) (rest : Octets) : Octets :=
  match skipBlanks rest with
  | [] => []
  | octet :: tail => if octet = closing.toUInt8 then tail else octet :: tail

/-- Reads the elements of a list and its closing bracket, one element per step; `done` holds
those already read, the last one first. -/
def readElements {α : Type} (read : Octets → Reading α) :
    Nat → Bool → List α → Octets → Reading (List α)
  | 0, _, _, rest => stop .endInList rest
  | steps + 1, first, done, rest =>
      match nextElement first rest with
      | .error problem => .error problem
      | .ok (false, rest) => (closeList rest).map fun rest => (done.reverse, rest)
      | .ok (true, rest) =>
          match read rest with
          | .error problem => .error problem
          | .ok (element, rest) => readElements read steps false (element :: done) rest

end ChainGateway.Json
