import ChainGateway.Config
import ChainGateway.Files
import ChainGateway.Toml.Reading

/-!
# Configuration files

A configuration is read from a file in TOML by the same schema as from a document.  Settings
that the file does not mention keep their defaults, and entries that are no setting are passed
over.
-/

namespace ChainGateway

open Json Text

mutual

/-- The value that a part of a configuration file gives by a schema, if it fits. -/
def Json.Schema.ofToml? : {α : Type} → Schema α → Toml.Value → Option α
  | _, .text, .text text => some text
  | _, .flag, .bool flag => some flag
  | _, .word64 _, .integer value =>
      if 0 ≤ value ∧ value < UInt64.size then some value.toNat.toUInt64 else none
  | _, .word32 _, .integer value =>
      if 0 ≤ value ∧ value < UInt32.size then some value.toNat.toUInt32 else none
  | _, .formatted _ parse _, .text text => (parse text).toOption
  | _, .choice names _, .text name => names.lookup name
  | _, .choice names _, .table [(name, .table [])] => names.lookup name
  | _, .choice names _, .table [(name, .array [])] => names.lookup name
  | _, .list element, .array elements => elements.mapM element.ofToml?
  | _, .record _ fields make _, .table entries => (fields.ofTable? entries).map make
  | _, .record _ fields make _, .moment _ => (fields.ofTable? []).map make
  | _, .record _ fields make _, .array elements => (fields.ofArray? elements).map make
  | _, _, _ => none

/-- The fields that the entries of a table give; those that are missing have their defaults. -/
def Json.Fields.ofTable? : {β δ : Type} → Fields β δ → List (String × Toml.Value) → Option β
  | _, _, .done, _ => some ()
  | _, _, .field name schema default? rest, entries => do
      let value ←
        match entries.lookup name with
        | some value => schema.ofToml? value
        | none => default?
      return (value, ← rest.ofTable? entries)

/-- The fields that the elements of an array give in order; those that are missing at the end
have their defaults. -/
def Json.Fields.ofArray? : {β δ : Type} → Fields β δ → List Toml.Value → Option β
  | _, _, .done, _ => some ()
  | _, _, .field _ _ default? rest, [] => do return (← default?, ← rest.ofArray? [])
  | _, _, .field _ schema _ rest, value :: elements => do
      return (← schema.ofToml? value, ← rest.ofArray? elements)

end

/-- Reads a configuration from a file and validates it. -/
def Config.load (files : Files) (path : String) : Except Error Config :=
  match files path with
  | .error reason => .error (.unreadable reason)
  | .ok contents =>
      match Utf8.decode? contents with
      | none => .error (.unreadable "stream did not contain valid UTF-8")
      | some text =>
          match (Toml.parse text).bind fun entries => Config.schema.ofToml? (.table entries) with
          | none => .error (.invalidConfigFile "malformed configuration file")
          | some config => config.validate.map fun () => config

end ChainGateway
