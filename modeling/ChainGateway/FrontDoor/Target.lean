import ChainGateway.Error
import ChainGateway.Text.Ascii
import ChainGateway.Text.Segments

/-!
# What the path of a request addresses

The accepted paths end in `v1/<id>` or `v1/lb/<id>`, with `lb` in either case, where empty
segments do not count and the last `v1` is the one that matters.  An id consists of letters and
digits of the basic alphabet and of `-`, `_` and `~`, with a letter or digit at both ends.

Ids have a fixed greatest length.  What comes after it is passed on to the node as a path if it
begins with `~`, each `~` standing for `/`, and is ignored otherwise.
-/

namespace ChainGateway.FrontDoor

open Text

/-- What a path addresses, with the path that is passed on to the node. -/
inductive Target where
  | application (id path : String)
  | balancer (id path : String)
  deriving DecidableEq, Repr

/-- The greatest length of an id. -/
def idLength : Nat := 24

/-- The segment after which the id stands. -/
def versionSegment : List Char := ['v', '1']

/-- What comes after the last of the elements that equal a mark. -/
def afterLast? {α : Type} [DecidableEq α] (mark : α) : List α → Option (List α)
  | [] => none
  | element :: rest =>
      match afterLast? mark rest with
      | some after => some after
      | none => if element = mark then some rest else none

/-- May the character stand within an id? -/
def isIdChar (char : Char) : Bool :=
  char.isAlphanum || char = '-' || char = '_' || char = '~'

/-- Is this an acceptable id? -/
def isId (id : List Char) : Bool :=
  id.head?.any Char.isAlphanum && id.getLast?.any Char.isAlphanum && id.all isIdChar

/-- Does the segment introduce the id of a load balancer? -/
def isBalancerMark (segment : List Char) : Bool :=
  equalIgnoringCase (String.ofList segment) "lb"

/-- The path that the characters after an id stand for. -/
def relayPath (rest : List Char) : List Char :=
  if rest.head? = some '~' then rest.map fun char => if char = '~' then '/' else char else []

/-- An acceptable id, cut to its greatest length, and the path after it. -/
def splitId (id : List Char) : String × String :=
  (String.ofList (id.take idLength), String.ofList (relayPath (id.drop idLength)))

/-- The target that the segments after the version address. -/
def targetOf? : List (List Char) → Option Target
  -- The whole segment must be acceptable, also what is cut off.
  | [id] => if isId id then some (.application (splitId id).1 (splitId id).2) else none
  | [mark, id] =>
      if isBalancerMark mark && isId id then some (.balancer (splitId id).1 (splitId id).2)
      else none
  | _ => none

/-- The target that a path addresses. -/
def Target.ofPath (path : String) : Except Error Target :=
  let parts := (segments '/' path.toList).filter fun segment => !segment.isEmpty
  match (afterLast? versionSegment parts).bind targetOf? with
  | some target => .ok target
  | none => .error (.invalidPath path)

end ChainGateway.FrontDoor
