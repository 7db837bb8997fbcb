import ChainGateway.Json.Document
import ChainGateway.Json.Skipped

/-!
# Schemas

A `Schema` describes how the values of a type are written as documents.  One description serves
both directions: `Schema.toValue` gives the value of a document, and `Schema.read` reads a
document.

A record is written as an object with one member for each field, in the order of the fields.
When it is read, members may come in any order, members that belong to no field are passed
over, and a field with a default may be missing; a record may also be given as a list of its
fields in order.  A record that lacks a field, or has one twice, is refused at the place where
it ends.
-/

namespace ChainGateway.Json

open Text

mutual

/-- How values of a type are written. -/
inductive Schema : Type → Type 1 where
  /-- A text. -/
  | text : Schema String
  /-- A truth value. -/
  | flag : Schema Bool
  /-- A natural number of up to 64 bits; error messages say what was expected. -/
  | word64 (expected : String) : Schema UInt64
  /-- A natural number of up to 32 bits; error messages say what was expected. -/
  | word32 (expected : String) : Schema UInt32
  /-- A text of a particular form. -/
  | formatted {α : Type} (expected : String) (parse : String → Except String α)
      (print : α → String) : Schema α
  /-- One of several names. -/
  | choice {α : Type} (names : List (String × α)) (name : α → String) : Schema α
  /-- Any value. -/
  | value : Schema Value
  /-- A list. -/
  | list {α : Type} (element : Schema α) : Schema (List α)
  /-- A record, whose fields are put together to one value. -/
  | record {α β δ : Type} (name : String) (fields : Fields β δ) (make : β → α)
      (parts : α → β) : Schema α

/-- The fields of a record, in order.  The first type is that of the values of all fields, the
second that of a draft of the record, in which fields may still be missing. -/
inductive Fields : Type → Type → Type 1 where
  /-- No more fields. -/
  | done : Fields Unit Unit
  /-- A field with its name and, where it may be missing, its default. -/
  | field {α β δ : Type} (name : String) (schema : Schema α) (default? : Option α)
      (rest : Fields β δ) : Fields (α × β) (Option α × δ)

end

/-! ## Writing -/

mutual

/-- The value of the document that a value is written as. -/
def Schema.toValue {α : Type} : Schema α → α → Value
  | .text, text => .text text
  | .flag, flag => .bool flag
  | .word64 _, word => .ofNat word.toNat
  | .word32 _, word => .ofNat word.toNat
  | .formatted _ _ print, formatted => .text (print formatted)
  | .choice _ name, chosen => .text (name chosen)
  | .value, value => value
  | .list element, elements => .array (elements.map element.toValue)
  | .record _ fields _ parts, record => .ofMembers (fields.toMembers (parts record))

/-- The members that fields are written as. -/
def Fields.toMembers {β δ : Type} : Fields β δ → β → List (String × Value)
  | .done, _ => []
  | .field name schema _ rest, (value, values) =>
      (name, schema.toValue value) :: rest.toMembers values

end

/-! ## Reading simple values -/

/-- Refuses a value of the wrong kind: what is found is read as far as needed to name it. -/
def readMismatch {α : Type} (steps : Nat) (expected : String) : Octets → Except Stop α
  | [] => stop .endInValue []
  | octet :: tail =>
      if octet = 'n'.toUInt8 then do
        let rest ← readWord ['u', 'l', 'l'] tail
        stop (.invalidType .null expected) rest
      else if octet = 't'.toUInt8 then do
        let rest ← readWord ['r', 'u', 'e'] tail
        stop (.invalidType (.bool true) expected) rest
      else if octet = 'f'.toUInt8 then do
        let rest ← readWord ['a', 'l', 's', 'e'] tail
        stop (.invalidType (.bool false) expected) rest
      else if octet = '-'.toUInt8 then do
        let (number, rest) ← readNumber true tail
        stop (.invalidType (.number number) expected) rest
      else if isDigit octet then do
        let (number, rest) ← readNumber false (octet :: tail)
        stop (.invalidType (.number number) expected) rest
      else if octet = '"'.toUInt8 then do
        let (text, rest) ← readChars steps [] tail
        stop (.invalidType (.text text) expected) rest
      else if octet = '['.toUInt8 then
        stop (.invalidType .list expected) (octet :: tail)
      else if octet = '\x7b'.toUInt8 then
        stop (.invalidType .object expected) (octet :: tail)
      else
        stop .expectedValue tail

/-- Reads a text; error messages say what was expected. -/
def readText (steps : Nat) (expected : String) (rest : Octets) : Reading String :=
  match skipBlanks rest with
  | [] => stop .endInValue []
  | octet :: tail =>
      if octet = '"'.toUInt8 then readChars steps [] tail
      else readMismatch steps expected (octet :: tail)

/-- Reads a truth value. -/
def readFlag (steps : Nat) (rest : Octets) : Reading Bool :=
  match skipBlanks rest with
  | [] => stop .endInValue []
  | octet :: tail =>
      if octet = 't'.toUInt8 then (readWord ['r', 'u', 'e'] tail).map (true, ·)
      else if octet = 'f'.toUInt8 then (readWord ['a', 'l', 's', 'e'] tail).map (false, ·)
      else readMismatch steps "a boolean" (octet :: tail)

/-- The natural number below a bound that a number is. -/
def boundedNat (bound : Nat) (expected : String) : Number → Except Problem Nat
  | .integer value =>
      if 0 ≤ value ∧ value.toNat < bound then .ok value.toNat
      else .error (.invalidValue (.number (.integer value)) expected)
  | .real value => .error (.invalidType (.number (.real value)) expected)

/-- Reads a natural number below a bound. -/
def readBounded (steps bound : Nat) (expected : String) (rest : Octets) : Reading Nat :=
  let bounded : Number × Octets → Reading Nat := fun (number, rest) =>
    match boundedNat bound expected number with
    | .ok value => .ok (value, rest)
    | .error problem => stop problem rest
  match skipBlanks rest with
  | [] => stop .endInValue []
  | octet :: tail =>
      if octet = '-'.toUInt8 then (readNumber true tail).bind bounded
      else if isDigit octet then (readNumber false (octet :: tail)).bind bounded
      else readMismatch steps expected (octet :: tail)

/-- Reads a text of a particular form. -/
def readFormatted {α : Type} (steps : Nat) (expected : String)
    (parse : String → Except String α) (rest : Octets) : Except Stop (α × Octets) := do
  let (text, rest) ← readText steps expected rest
  match parse text with
  | .ok value => return (value, rest)
  | .error reason => stop (.malformed reason) rest

/-! ## Reading choices -/

/-- Reads one of several names. -/
def readName {α : Type} (steps : Nat) (names : List (String × α)) (rest : Octets) :
    Except Stop (α × Octets) := do
  let (text, rest) ← readText steps "variant identifier" rest
  match names.lookup text with
  | some chosen => return (chosen, rest)
  | none => stop (.unknownVariant text (names.map (·.1))) rest

/-- Reads null, the only content that a name may have. -/
def readUnit? (steps : Nat) (rest : Octets) : Except Stop Octets :=
  match skipBlanks rest with
  | [] => stop .endInValue []
  | octet :: tail =>
      if octet = 'n'.toUInt8 then readWord ['u', 'l', 'l'] tail
      else readMismatch steps "unit" (octet :: tail)

/-- Reads a choice: a name alone, or an object with the name as its only member and null as the
value of the member. -/
def readChoice {α : Type} (steps nesting : Nat) (names : List (String × α)) (rest : Octets) :
    Except Stop (α × Octets) :=
  match skipBlanks rest with
  | [] => stop .endInValue []
  | octet :: tail =>
      if octet = '"'.toUInt8 then readName steps names (octet :: tail)
      else if octet = '\x7b'.toUInt8 then
        if nesting = 0 then stop .nestedTooDeeply tail
        else do
          let (chosen, rest) ← readName steps names tail
          let rest ← readColon rest
          let rest ← readUnit? steps rest
          match skipBlanks rest with
          | [] => stop .endInObject []
          | octet :: tail =>
              if octet = '\x7d'.toUInt8 then return (chosen, tail)
              else stop .expectedValue (octet :: tail)
      else stop .expectedValue tail

/-! ## Reading records -/

/-- Why a record is refused: a problem that has its place, or one of the record as a whole,
which is placed where the record ends. -/
inductive Refusal where
  | placed (stop : Stop)
  | ofRecord (problem : Problem) (rest : Octets)

/-- The refusal with its place; the record ends with the given bracket or brace. -/
def Refusal.toStop (closing : Char) : Refusal → Stop
  | .placed stop => stop
  | .ofRecord problem rest => ⟨problem, afterClosing closing rest⟩

/-- A step that meets only problems with a place. -/
def placed {α : Type} : Except Stop α → Except Refusal α
  | .ok value => .ok value
  | .error stop => .error (.placed stop)

/-- The draft in which no field has been read. -/
def Fields.emptyDraft : {β δ : Type} → Fields β δ → δ
  | _, _, .done => ()
  | _, _, .field _ _ _ rest => (none, rest.emptyDraft)

/-- Puts a draft together; a field that is missing takes its default. -/
def Fields.complete : {β δ : Type} → Fields β δ → δ → Except Problem β
  | _, _, .done, _ => .ok ()
  | _, _, .field name _ default? rest, (slot, draft) =>
      match slot, default? with
      | some value, _ => (rest.complete draft).map (value, ·)
      | none, some value => (rest.complete draft).map (value, ·)
      | none, none => .error (.missingField name)

/-- The number of fields. -/
def Fields.size : {β δ : Type} → Fields β δ → Nat
  | _, _, .done => 0
  | _, _, .field _ _ _ rest => rest.size + 1

/-- Reads the members of a record into a draft, one member per turn, up to the closing
brace. -/
def readDraft {δ : Type} (read : String → δ → Octets → Except Refusal (δ × Octets))
    (steps : Nat) : Nat → Bool → δ → Octets → Except Refusal (δ × Octets)
  | 0, _, _, rest => .error (.placed ⟨.endInObject, rest⟩)
  | turns + 1, first, draft, rest =>
      match nextMember first rest with
      | .error stop => .error (.placed stop)
      | .ok (false, rest) => .ok (draft, rest)
      | .ok (true, rest) =>
          match readChars steps [] rest with
          | .error stop => .error (.placed stop)
          | .ok (name, rest) =>
              match read name draft rest with
              | .error refusal => .error refusal
              | .ok (draft, rest) => readDraft read steps turns false draft rest

mutual

/-- Reads a value by its schema, with so many more brackets and braces allowed to be opened. -/
def Schema.read (steps nesting : Nat) : {α : Type} → Schema α → Octets → Reading α
  | _, .text, rest => readText steps "a string" rest
  | _, .flag, rest => readFlag steps rest
  | _, .word64 expected, rest =>
      (readBounded steps UInt64.size expected rest).map fun (word, rest) => (word.toUInt64, rest)
  | _, .word32 expected, rest =>
      (readBounded steps UInt32.size expected rest).map fun (word, rest) => (word.toUInt32, rest)
  | _, .formatted expected parse _, rest => readFormatted steps expected parse rest
  | _, .choice names _, rest => readChoice steps nesting names rest
  | _, .value, rest => readValue steps nesting rest
  | _, .list element, rest =>
      match skipBlanks rest with
      | [] => stop .endInValue []
      | octet :: tail =>
          if octet = '['.toUInt8 then
            if nesting = 0 then stop .nestedTooDeeply tail
            else readElements (element.read steps (nesting - 1)) steps true [] tail
          else readMismatch steps "a sequence" (octet :: tail)
  | _, .record name fields make _, rest =>
      match skipBlanks rest with
      | [] => stop .endInValue []
      | octet :: tail =>
          if octet = '['.toUInt8 then
            if nesting = 0 then stop .nestedTooDeeply tail
            else
              match fields.readOrdered steps (nesting - 1) name fields.size 0 tail with
              | .error refusal => .error (refusal.toStop ']')
              | .ok (values, rest) => (closeList rest).map fun rest => (make values, rest)
          else if octet = '\x7b'.toUInt8 then
            if nesting = 0 then stop .nestedTooDeeply tail
            else
              match readDraft (fields.readNamed steps (nesting - 1)) steps steps true
                  fields.emptyDraft tail with
              | .error refusal => .error (refusal.toStop '\x7d')
              | .ok (draft, rest) =>
                  match fields.complete draft with
                  | .error problem => stop problem (afterClosing '\x7d' rest)
                  | .ok values => (closeObject rest).map fun rest => (make values, rest)
          else readMismatch steps ("struct " ++ name) (octet :: tail)

/-- Reads the value of the member with the given name into its field; a member that belongs to
no field is passed over. -/
def Fields.readNamed (steps nesting : Nat) : {β δ : Type} → Fields β δ → String → δ →
    Octets → Except Refusal (δ × Octets)
  | _, _, .done, _, draft, rest =>
      (placed ((readColon rest).bind (skipValue steps))).map fun rest => (draft, rest)
  | _, _, .field field schema _ more, name, (slot, draft), rest =>
      if name = field then
        match slot with
        | some _ => .error (.ofRecord (.duplicateField field) rest)
        | none =>
            (placed ((readColon rest).bind (schema.read steps nesting))).map
              fun (value, rest) => ((some value, draft), rest)
      else
        (more.readNamed steps nesting name draft rest).map fun (draft, rest) =>
          ((slot, draft), rest)

/-- Reads the fields of a record with `size` fields from the elements of a list, `index` of
which have been read; elements that are missing at the end take their defaults. -/
def Fields.readOrdered (steps nesting : Nat) (record : String) (size : Nat) : {β δ : Type} →
    Fields β δ → Nat → Octets → Except Refusal (β × Octets)
  | _, _, .done, _, rest => .ok ((), rest)
  | _, _, .field _ schema default? more, index, rest =>
      match nextElement (index == 0) rest with
      | .error stop => .error (.placed stop)
      | .ok (true, rest) =>
          match schema.read steps nesting rest with
          | .error stop => .error (.placed stop)
          | .ok (value, rest) =>
              (more.readOrdered steps nesting record size (index + 1) rest).map
                fun (values, rest) => ((value, values), rest)
      | .ok (false, rest) =>
          match default? with
          | none => .error (.ofRecord (.invalidLength index record size) rest)
          | some value =>
              (more.readOrdered steps nesting record size (index + 1) rest).map
                fun (values, rest) => ((value, values), rest)

end

/-- Reads a whole document by a schema. -/
def Schema.decode {α : Type} (schema : Schema α) (document : Octets) : Except Error α :=
  readWhole (fun steps => schema.read steps nestingLimit) document

/-- The document that a value is written as, in compact form. -/
def Schema.encode {α : Type} (schema : Schema α) (value : α) : Octets :=
  Utf8.encodeChars (schema.toValue value).chars

end ChainGateway.Json
