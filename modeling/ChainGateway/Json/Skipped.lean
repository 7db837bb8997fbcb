import ChainGateway.Json.NumberText
import ChainGateway.Json.QuotedText

/-!
# Values that are passed over

The value of a member that no field asks for is passed over.  It must have the form of a value,
but it may be nested to any depth, so the brackets and braces that are still open are kept in a
list.  At each step reading either stands where a value is expected, or behind a value or an
opening bracket.
-/

namespace ChainGateway.Json

open Text

/-- What an opening bracket or brace begins. -/
inductive Enclosing where
  | list
  | object
  deriving DecidableEq, Repr

namespace Enclosing

/-- The octet that ends it. -/
def closing : Enclosing → UInt8
  | .list => ']'.toUInt8
  | .object => '\x7d'.toUInt8

/-- The problem when the document ends within it. -/
def endProblem : Enclosing → Problem
  | .list => .endInList
  | .object => .endInObject

/-- The problem when something other than its end or a comma follows a value. -/
def expectedProblem : Enclosing → Problem
  | .list => .expectedListEnd
  | .object => .expectedObjectEnd

/-- Passes over what stands before a value: nothing, or a name and a colon. -/
def skipName (rest : Octets) : Enclosing → Except Stop Octets
  | .list => .ok rest
  | .object =>
      match skipBlanks rest with
      | [] => stop .endInObject []
      | octet :: tail =>
          if octet = '"'.toUInt8 then (skipText tail).bind readColon
          else stop .keyNotText tail

end Enclosing

/-- Where reading stands. -/
inductive Standing where
  /-- A value comes next. -/
  | beforeValue
  /-- A value has been passed over, and a comma may follow. -/
  | afterValue
  /-- A bracket or brace has just been opened. -/
  | afterOpening
  deriving DecidableEq, Repr

/-- Passes over a value that is neither a list nor an object. -/
def skipScalar : Octets → Except Stop Octets
  | [] => stop .endInValue []
  | octet :: tail =>
      if octet = 'n'.toUInt8 then readWord ['u', 'l', 'l'] tail
      else if octet = 't'.toUInt8 then readWord ['r', 'u', 'e'] tail
      else if octet = 'f'.toUInt8 then readWord ['a', 'l', 's', 'e'] tail
      else if octet = '-'.toUInt8 then skipNumber tail
      else if isDigit octet then skipNumber (octet :: tail)
      else if octet = '"'.toUInt8 then skipText tail
      else stop .expectedValue tail

/-- Passes over values until everything that is open has been closed. -/
def skipOpen : Nat → Standing → List Enclosing → Octets → Except Stop Octets
  | 0, _, _, rest => stop .endInValue rest
  | steps + 1, .beforeValue, opened, rest =>
      match skipBlanks rest with
      | [] => stop .endInValue []
      | octet :: tail =>
          if octet = '['.toUInt8 then skipOpen steps .afterOpening (.list :: opened) tail
          else if octet = '\x7b'.toUInt8 then
            skipOpen steps .afterOpening (.object :: opened) tail
          else
            match skipScalar (octet :: tail) with
            | .ok rest => skipOpen steps .afterValue opened rest
            | .error problem => .error problem
  | _ + 1, _, [], rest => .ok rest
  | steps + 1, standing, enclosing :: opened, rest =>
      match skipBlanks rest with
      | [] => stop enclosing.endProblem []
      | octet :: tail =>
          if octet = enclosing.closing then skipOpen steps .afterValue opened tail
          else
            let next :=
              if standing = .afterOpening then enclosing.skipName (octet :: tail)
              else if octet = ','.toUInt8 then enclosing.skipName tail
              else stop enclosing.expectedProblem tail
            match next with
            | .ok rest => skipOpen steps .beforeValue (enclosing :: opened) rest
            | .error problem => .error problem

/-- Passes over one value; `steps` is at least the number of octets left. -/
def skipValue (steps : Nat) (rest : Octets) : Except Stop Octets :=
  skipOpen (2 * steps + 2) .beforeValue [] rest

end ChainGateway.Json
