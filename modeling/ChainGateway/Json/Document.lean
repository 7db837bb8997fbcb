import ChainGateway.Json.NumberText
import ChainGateway.Json.QuotedText

/-!
# Reading a value

A value is read with lists and objects nested to a limited depth.  `steps` bounds the number of
elements, members and characters that any one loop goes through; the number of octets of the
document is always enough, because every turn of a loop takes at least one octet.
-/

namespace ChainGateway.Json

open Text

/-- How many brackets and braces may be open at the same time. -/
def nestingLimit : Nat := 127

/-- Reads the members of an object and its closing brace; `done` holds those already read, in
the order of their names. -/
def readMembers (read : Octets → Reading Value) (steps : Nat) :
    Nat → Bool → List (String × Value) → Octets → Except Stop (List (String × Value) × Octets)
  | 0, _, _, rest => stop .endInObject rest
  | turns + 1, first, done, rest => do
      match ← nextMember first rest with
      | (false, rest) => return (done, ← closeObject rest)
      | (true, rest) =>
          let (name, rest) ← readChars steps [] rest
          let rest ← readColon rest
          let (value, rest) ← read rest
          readMembers read steps turns false (insertMember name value done) rest

/-- Reads a value, with so many more brackets and braces allowed to be opened. -/
def readValue (steps : Nat) : Nat → Octets → Reading Value
  | nesting, rest =>
      match skipBlanks rest with
      | [] => stop .endInValue []
      | octet :: tail =>
          if octet = 'n'.toUInt8 then
            (readWord ['u', 'l', 'l'] tail).map (Value.null, ·)
          else if octet = 't'.toUInt8 then
            (readWord ['r', 'u', 'e'] tail).map (Value.bool true, ·)
          else if octet = 'f'.toUInt8 then
            (readWord ['a', 'l', 's', 'e'] tail).map (Value.bool false, ·)
          else if octet = '-'.toUInt8 then
            (readNumber true tail).map fun (number, rest) => (Value.number number, rest)
          else if isDigit octet then
            (readNumber false (octet :: tail)).map fun (number, rest) =>
              (Value.number number, rest)
          else if octet = '"'.toUInt8 then
            (readChars steps [] tail).map fun (text, rest) => (Value.text text, rest)
          else if octet = '['.toUInt8 then
            match nesting with
            | 0 => stop .nestedTooDeeply tail
            | nesting + 1 =>
                (readElements (readValue steps nesting) steps true [] tail).map
                  fun (elements, rest) => (Value.array elements, rest)
          else if octet = '\x7b'.toUInt8 then
            match nesting with
            | 0 => stop .nestedTooDeeply tail
            | nesting + 1 =>
                (readMembers (readValue steps nesting) steps steps true [] tail).map
                  fun (members, rest) => (Value.object members, rest)
          else stop .expectedValue tail

/-- Checks that nothing but blanks is left. -/
def finish (rest : Octets) : Except Stop Unit :=
  match skipBlanks rest with
  | [] => .ok ()
  | _ :: tail => stop .trailingCharacters tail

/-- Reads a whole document with the given reader, which is told the number of steps that
suffice for the document. -/
def readWhole {α : Type} (read : Nat → Octets → Reading α) (document : Octets) :
    Except Error α :=
  match read (document.length + 1) document with
  | .error problem => .error (problem.toError document)
  | .ok (value, rest) =>
      match finish rest with
      | .error problem => .error (problem.toError document)
      | .ok () => .ok value

/-- The value that a document denotes. -/
def parse (document : Octets) : Except Error Value :=
  readWhole (fun steps => readValue steps nestingLimit) document

end ChainGateway.Json
