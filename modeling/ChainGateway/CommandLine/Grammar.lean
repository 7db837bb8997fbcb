import ChainGateway.Text.Segments

/-!
# Command line grammar

A command takes options, which are named, and positional values, which are told by their place.
A grammar lists them, together with the names of subcommands, and `Grammar.parse` turns the
arguments into the values of each parameter, or says how they are misused.

Arguments are taken one by one.  An option waits for its values (`pending?`) until an argument
comes that is not one of them; only then are its values counted and checked.  So the first
misuse in the order of arguments is reported, and what is missing only at the end.
-/

namespace ChainGateway.CommandLine

open Text

/-- The ways of misusing the command line, requests for help among them. -/
inductive Misuse where
  | missingSubcommand
  | invalidSubcommand
  | missingRequiredArgument
  | unknownArgument
  | invalidValue
  | valueValidation
  | tooManyValues
  | argumentConflict
  | displayHelp
  | displayVersion
  /-- Nothing was asked for, and help is shown instead. -/
  | displayHelpOnMissing
  deriving DecidableEq, Repr

/-- Is this a mistake, and not a question that is answered? -/
def Misuse.isMistake : Misuse → Bool
  | .displayHelp | .displayVersion => false
  | _ => true

/-- A parameter of a command. -/
structure Parameter where
  name : String
  /-- Does it stand at its place, and not behind its name? -/
  positional : Bool := false
  short? : Option Char := none
  /-- May it have several values? -/
  many : Bool := false
  /-- Do commas divide its values? -/
  divided : Bool := false
  required : Bool := false
  /-- What is wrong with a value, if anything. -/
  verify : String → Option Misuse := fun _ => none

/-- What a command takes. -/
structure Grammar where
  options : List Parameter := []
  positionals : List Parameter := []
  subcommands : List String := []
  /-- Can the version be asked for? -/
  versioned : Bool := false
  /-- Is help shown where nothing is asked for? -/
  helpful : Bool := false

/-- How far the arguments have been taken. -/
structure Progress where
  /-- The values of the parameters that are complete. -/
  values : List (String × List String) := []
  /-- The parameter that is not complete, with its values so far. -/
  pending? : Option (Parameter × List String) := none
  /-- Is the next argument a value of the pending option? -/
  expecting : Bool := false
  /-- The number of positional parameters that are complete. -/
  place : Nat := 0
  /-- Are all further arguments values? -/
  trailing : Bool := false

namespace Progress

/-- The values of a parameter. -/
def valuesOf (progress : Progress) (name : String) : List String :=
  (progress.values.lookup name).getD []

/-- The first value of a parameter. -/
def valueOf? (progress : Progress) (name : String) : Option String :=
  (progress.valuesOf name).head?

/-- Has the parameter been given? -/
def has (progress : Progress) (name : String) : Bool :=
  (progress.values.lookup name).isSome

/-- Completes the pending parameter: it needs a value, an option stands only once, and each
value must pass its check. -/
def resolve (progress : Progress) : Except Misuse Progress :=
  match progress.pending? with
  | none => .ok progress
  | some (parameter, given) =>
      if given.isEmpty then .error .invalidValue
      else if !parameter.positional && progress.has parameter.name then
        .error .argumentConflict
      else
        let values := if parameter.divided then given.flatMap (cut ',') else given
        match values.findSome? parameter.verify with
        | some misuse => .error misuse
        | none =>
            let all := progress.valuesOf parameter.name ++ values
            let others := progress.values.filter fun entry => entry.1 ≠ parameter.name
            .ok { progress with
              values := others ++ [(parameter.name, all)], pending? := none, expecting := false }

/-- Takes the name of an option, with the value that is attached to it, if there is one. -/
def takeOption (progress : Progress) (option : Parameter) (attached? : Option String) :
    Except Misuse Progress := do
  let progress ← progress.resolve
  match attached? with
  | some value => resolve { progress with pending? := some (option, [value]) }
  | none => return { progress with pending? := some (option, []), expecting := true }

/-- Takes a value of the pending option. -/
def takeExpected (progress : Progress) (value : String) : Progress :=
  match progress.pending? with
  | some (option, values) =>
      { progress with pending? := some (option, values ++ [value]), expecting := option.many }
  | none => progress

end Progress

namespace Grammar

/-- Takes a positional value. -/
def takeValue (grammar : Grammar) (progress : Progress) (value : String) :
    Except Misuse Progress :=
  match grammar.positionals[progress.place]? with
  | none =>
      .error
        (if grammar.subcommands.isEmpty ||
            (progress.trailing && grammar.subcommands.contains value) then .unknownArgument
          else .invalidSubcommand)
  | some parameter => do
      let (progress, earlier) ←
        match progress.pending? with
        | some (pending, values) =>
            if pending.name = parameter.name then
              pure (progress, values)
            else
              pure (← progress.resolve, [])
        | none => pure (progress, [])
      return { progress with
        pending? := some (parameter, earlier ++ [value])
        place := if parameter.many then progress.place else progress.place + 1 }

/-- Takes an option by its long name. -/
def takeLong (grammar : Grammar) (progress : Progress) (chars : List Char) :
    Except Misuse Progress :=
  let name := String.ofList (chars.takeWhile (· ≠ '='))
  let attached? :=
    match chars.dropWhile (· ≠ '=') with
    | _ :: value => some (String.ofList value)
    | [] => none
  match grammar.options.find? fun option => option.name == name with
  | some option => progress.takeOption option attached?
  | none =>
      if name = "help" ∨ (name = "version" ∧ grammar.versioned) then
        match attached? with
        | some _ => .error .tooManyValues
        | none =>
            match progress.resolve with
            | .error misuse => .error misuse
            | .ok _ => .error (if name = "help" then .displayHelp else .displayVersion)
      else .error .unknownArgument

/-- Takes an option by its letter; what follows the letter is its value. -/
def takeShort (grammar : Grammar) (progress : Progress) (letter : Char) (rest : List Char) :
    Except Misuse Progress :=
  match grammar.options.find? fun option => option.short? == some letter with
  | some option =>
      progress.takeOption option
        (match rest with
          | [] => none
          | '=' :: value => some (String.ofList value)
          | value => some (String.ofList value))
  | none =>
      if letter = 'h' ∨ (letter = 'V' ∧ grammar.versioned) then
        match progress.resolve with
        | .error misuse => .error misuse
        | .ok _ => .error (if letter = 'h' then .displayHelp else .displayVersion)
      else .error .unknownArgument

/-- Takes all arguments, up to the name of a subcommand; that name and the arguments after it are
returned as well. -/
def takeAll (grammar : Grammar) : Progress → List String →
    Except Misuse (Progress × Option (String × List String))
  | progress, [] => .ok (progress, none)
  | progress, argument :: rest =>
      if progress.trailing then
        match grammar.takeValue progress argument with
        | .ok progress => takeAll grammar progress rest
        | .error misuse => .error misuse
      else if !progress.expecting && grammar.subcommands.contains argument then
        .ok (progress, some (argument, rest))
      else
        let taken : Except Misuse Progress :=
          match argument.toList with
          | ['-', '-'] => .ok { progress with trailing := true, expecting := false }
          | '-' :: '-' :: name => grammar.takeLong progress name
          | '-' :: letter :: rest => grammar.takeShort progress letter rest
          | _ =>
              if progress.expecting then .ok (progress.takeExpected argument)
              else grammar.takeValue progress argument
        match taken with
        | .ok progress => takeAll grammar progress rest
        | .error misuse => .error misuse

/-- Checks that nothing is missing from a command without subcommands. -/
def checkComplete (grammar : Grammar) (progress : Progress) : Except Misuse Unit :=
  if (grammar.positionals ++ grammar.options).all fun parameter =>
      !parameter.required || progress.has parameter.name then .ok ()
  else .error .missingRequiredArgument

/-- The values of the parameters of a command without subcommands. -/
def parse (grammar : Grammar) (arguments : List String) : Except Misuse Progress := do
  let (progress, _) ← grammar.takeAll {} arguments
  let progress ← progress.resolve
  grammar.checkComplete progress
  return progress

end Grammar

end ChainGateway.CommandLine
