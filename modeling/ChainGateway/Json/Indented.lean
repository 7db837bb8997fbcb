import ChainGateway.Json.Value

/-!
# Indented documents

For readers at a terminal a value is written over several lines: each element and each member
stands on a line of its own, two blanks deeper than the bracket or brace around it.  Lists and
objects without contents stay on one line.
-/

namespace ChainGateway.Json

/-- Ends a line and begins the next one at the given depth. -/
def pushLine (depth : Nat) (out : List Char) : List Char :=
  push ('\n' :: out) (List.replicate (2 * depth) ' ')

mutual

/-- Writes a value after the output so far, which is held with its last character first. -/
def Value.writeIndented (depth : Nat) (out : List Char) : Value → List Char
  | .array (element :: elements) =>
      let first := element.writeIndented (depth + 1) (pushLine (depth + 1) ('[' :: out))
      ']' :: pushLine depth (indentElements (depth + 1) first elements)
  | .object ((name, value) :: members) =>
      let label := push (pushLine (depth + 1) ('\x7b' :: out)) (textChars name)
      let first := value.writeIndented (depth + 1) (push label [':', ' '])
      '\x7d' :: pushLine depth (indentMembers (depth + 1) first members)
  | value => value.write out

/-- Writes further elements of a list. -/
def indentElements (depth : Nat) (out : List Char) : List Value → List Char
  | [] => out
  | element :: elements =>
      indentElements depth (element.writeIndented depth (pushLine depth (',' :: out))) elements

/-- Writes further members of an object. -/
def indentMembers (depth : Nat) (out : List Char) : List (String × Value) → List Char
  | [] => out
  | (name, value) :: members =>
      let label := push (pushLine depth (',' :: out)) (textChars name)
      indentMembers depth (value.writeIndented depth (push label [':', ' '])) members

end

/-- The value over several lines. -/
def Value.indented (value : Value) : String :=
  String.ofList (value.writeIndented 0 []).reverse

end ChainGateway.Json
