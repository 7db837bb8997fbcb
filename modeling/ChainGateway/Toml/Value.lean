/-!
# Values of a configuration file

A configuration file in TOML denotes a table.  While a file is read, tables are extended again
and again, and what may be extended depends on how a table came about: by a header, as a part of
the path in a header, or as a part of a dotted key.  A `Tree` keeps that origin; once the file
has been read, only the `Value` remains.

No setting is a number with a fraction or a date, so these values only keep their text.
-/

namespace ChainGateway.Toml

/-- The value that a file, or a part of it, denotes. -/
inductive Value where
  | text (value : String)
  | integer (value : Int)
  | real (written : String)
  | bool (value : Bool)
  | moment (written : String)
  | array (elements : List Value)
  | table (entries : List (String × Value))
  deriving Repr, Inhabited

/-- How a table came about. -/
inductive Origin where
  /-- It has a header of its own. -/
  | header
  /-- It is part of the path in a header. -/
  | path
  /-- It is part of a dotted key. -/
  | dottedKey
  deriving DecidableEq, Repr

/-- A table or value that is being read. -/
inductive Tree where
  /-- A value, which cannot be extended. -/
  | leaf (value : Value)
  /-- A table. -/
  | table (origin : Origin) (entries : List (String × Tree))
  /-- A list of tables, the last one first. -/
  | rows (entries : List (List (String × Tree)))
  deriving Repr, Inhabited

/-- The entries of a table that is being read. -/
abbrev Entries := List (String × Tree)

mutual

/-- The value that a tree denotes. -/
def Tree.toValue : Tree → Value
  | .leaf value => value
  | .table _ entries => .table (toEntries entries)
  | .rows rows => .array (toTables rows).reverse

/-- The entries that a table consists of. -/
def toEntries : List (String × Tree) → List (String × Value)
  | [] => []
  | (name, tree) :: entries => (name, tree.toValue) :: toEntries entries

/-- The tables that a list consists of. -/
def toTables : List (List (String × Tree)) → List Value
  | [] => []
  | entries :: rows => .table (toEntries entries) :: toTables rows

end

/-- The entries with the one of the given name replaced. -/
def replace (entries : Entries) (name : String) (tree : Tree) : Entries :=
  entries.map fun entry => if entry.1 = name then (name, tree) else entry

/-- Adds a key with its value, below tables that a dotted key names before it.  `isOpen` says
whether the entries are those of a table that takes such a key. -/
def addKey (entries : Entries) (isOpen : Bool) (path : List String) (key : String)
    (value : Value) : Option Entries :=
  match path with
  | [] =>
      if isOpen ∧ entries.lookup key = none then some (entries ++ [(key, .leaf value)]) else none
  | name :: path =>
      match entries.lookup name with
      | none =>
          (addKey [] true path key value).map fun inner =>
            entries ++ [(name, .table .dottedKey inner)]
      | some (.table .header _) => none
      | some (.table origin inner) =>
          (addKey inner (origin = .dottedKey) path key value).map fun inner =>
            replace entries name (.table origin inner)
      | some (.rows (row :: rows)) =>
          (addKey row false path key value).map fun row =>
            replace entries name (.rows (row :: rows))
      | some _ => none

/-- Changes the table that the path of a header leads to.  Tables on the way that do not exist
come about as parts of the path; a list of tables leads to its last one. -/
def changeAt (entries : Entries) (path : List String) (change : Entries → Option Entries) :
    Option Entries :=
  match path with
  | [] => change entries
  | name :: path =>
      match entries.lookup name with
      | none =>
          (changeAt [] path change).map fun inner => entries ++ [(name, .table .path inner)]
      | some (.table origin inner) =>
          (changeAt inner path change).map fun inner =>
            replace entries name (.table origin inner)
      | some (.rows (row :: rows)) =>
          (changeAt row path change).map fun row => replace entries name (.rows (row :: rows))
      | some _ => none

/-- Begins the table of a header: it must be new, or known only as part of a path. -/
def openTable (name : String) (entries : Entries) : Option Entries :=
  match entries.lookup name with
  | none => some (entries ++ [(name, .table .header [])])
  | some (.table .path inner) => some (replace entries name (.table .header inner))
  | some _ => none

/-- Begins another table of a list of tables. -/
def openRow (name : String) (entries : Entries) : Option Entries :=
  match entries.lookup name with
  | none => some (entries ++ [(name, .rows [[]])])
  | some (.rows rows) => some (replace entries name (.rows ([] :: rows)))
  | some _ => none

end ChainGateway.Toml
