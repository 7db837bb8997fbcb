import ChainGateway.Json.Value
import ChainGateway.Text.Quoted
import ChainGateway.Text.Utf8

/-!
# What can be wrong with a document

A document is refused for a `Problem`: a fault of its form, or contents that do not fit the kind
of document that is read.  An error also tells where reading stopped, as a line and a column
that counts octets.  While reading, a place in the document is represented by the octets that
are still to be read (`Stop`); `Position.before` turns it into a line and a column.
-/

namespace ChainGateway.Json

open Decimal Text

/-- What was found in the place of something else. -/
inductive Found where
  | null
  | bool (value : Bool)
  | number (value : Number)
  | text (value : String)
  | list
  | object

/-- The reasons to refuse a document. -/
inductive Problem where
  | endInList
  | endInObject
  | endInText
  | endInValue
  | expectedColon
  | expectedListEnd
  | expectedObjectEnd
  | expectedWord
  | expectedValue
  | invalidEscape
  | invalidNumber
  | numberOutOfRange
  | invalidCodePoint
  | controlCharacter
  | keyNotText
  | loneSurrogate
  | unfinishedSurrogate
  | trailingComma
  | trailingCharacters
  | nestedTooDeeply
  /-- A value of the wrong kind. -/
  | invalidType (found : Found) (expected : String)
  /-- A value of the right kind, but outside the range. -/
  | invalidValue (found : Found) (expected : String)
  /-- A list that ends before a field without default. -/
  | invalidLength (length : Nat) (record : String) (size : Nat)
  | missingField (name : String)
  | duplicateField (name : String)
  | unknownVariant (found : String) (known : List String)
  /-- A text that does not have the form it should have. -/
  | malformed (reason : String)

/-- How an error message names what was found. -/
def Found.message : Found → String
  | .null => "null"
  | .bool true => "boolean `true`"
  | .bool false => "boolean `false`"
  | .number (.integer value) => "integer `" ++ String.ofList (integerChars value) ++ "`"
  | .number (.real value) => "floating point `" ++ String.ofList (realChars value) ++ "`"
  | .text value => "string " ++ quoted value
  | .list => "sequence"
  | .object => "map"

/-- Names in backticks: one alone, two joined by a word, more as a list. -/
def quotedNames : List String → String
  | [first, second] => "`" ++ first ++ "` or `" ++ second ++ "`"
  | [only] => "`" ++ only ++ "`"
  | names => "one of " ++ ", ".intercalate (names.map fun name => "`" ++ name ++ "`")

/-- The message of a problem, without its place. -/
def Problem.message : Problem → String
  | .endInList => "EOF while parsing a list"
  | .endInObject => "EOF while parsing an object"
  | .endInText => "EOF while parsing a string"
  | .endInValue => "EOF while parsing a value"
  | .expectedColon => "expected `:`"
  | .expectedListEnd => "expected `,` or `]`"
  | .expectedObjectEnd => "expected `,` or `\x7d`"
  | .expectedWord => "expected ident"
  | .expectedValue => "expected value"
  | .invalidEscape => "invalid escape"
  | .invalidNumber => "invalid number"
  | .numberOutOfRange => "number out of range"
  | .invalidCodePoint => "invalid unicode code point"
  | .controlCharacter => "control character (\\u0000-\\u001F) found while parsing a string"
  | .keyNotText => "key must be a string"
  | .loneSurrogate => "lone leading surrogate in hex escape"
  | .unfinishedSurrogate => "unexpected end of hex escape"
  | .trailingComma => "trailing comma"
  | .trailingCharacters => "trailing characters"
  | .nestedTooDeeply => "recursion limit exceeded"
  | .invalidType found expected => "invalid type: " ++ found.message ++ ", expected " ++ expected
  | .invalidValue found expected =>
      "invalid value: " ++ found.message ++ ", expected " ++ expected
  | .invalidLength length record size =>
      "invalid length " ++ Decimal.text length ++ ", expected struct " ++ record ++ " with "
        ++ Decimal.text size ++ (if size = 1 then " element" else " elements")
  | .missingField name => "missing field `" ++ name ++ "`"
  | .duplicateField name => "duplicate field `" ++ name ++ "`"
  | .unknownVariant found known =>
      "unknown variant `" ++ found ++ "`, expected " ++ quotedNames known
  | .malformed reason => reason

/-- A place in a document; lines count from one, columns are the octets passed in the line. -/
structure Position where
  line : Nat
  column : Nat
  deriving DecidableEq, Repr

/-- The position after the octets passed. -/
def Position.after (passed : Octets) : Position :=
  passed.foldl
    (fun position octet =>
      if octet = '\n'.toUInt8 then ⟨position.line + 1, 0⟩
      else ⟨position.line, position.column + 1⟩)
    ⟨1, 0⟩

/-- A problem and where reading stopped. -/
structure Error where
  problem : Problem
  position : Position

/-- The message of an error. -/
def Error.message (error : Error) : String :=
  error.problem.message ++ " at line " ++ Decimal.text error.position.line ++ " column "
    ++ Decimal.text error.position.column

/-- A problem, with the octets that were still to be read when it was found. -/
structure Stop where
  problem : Problem
  rest : Octets

/-- The error within the whole document. -/
def Stop.toError (document : Octets) (stop : Stop) : Error :=
  ⟨stop.problem, Position.after (document.take (document.length - stop.rest.length))⟩

end ChainGateway.Json
