import ChainGateway.CommandLine.Grammar
import ChainGateway.Config
import ChainGateway.ConfigFile

/-!
# Commands

The program has two commands: `serve` opens the front door, and `check` finds out which nodes of
an application serve the given chains.  Both take a configuration file and settings that take
precedence over it.
-/

namespace ChainGateway.CommandLine

open Net

/-- Settings that take precedence over the configuration file. -/
structure Overrides where
  configFile? : Option String := none
  dataDirectory? : Option String := none
  dispatchUrls? : Option (List String) := none
  deriving DecidableEq, Repr

/-- A command with its arguments. -/
inductive Command where
  | serve (overrides : Overrides) (listener? : Option SocketAddress)
  | check (overrides : Overrides) (application : String) (chains : List String)
  deriving DecidableEq, Repr

/-- The settings of a command. -/
def Command.overrides : Command → Overrides
  | .serve overrides _ => overrides
  | .check overrides _ _ => overrides

/-- The name of a command. -/
def Command.name : Command → String
  | .serve .. => "serve"
  | .check .. => "check"

/-! ## Grammar -/

/-- A path must not be empty. -/
def verifyPath (value : String) : Option Misuse :=
  if value = "" then some .invalidValue else none

/-- A listener must be an address with a port. -/
def verifyListener (value : String) : Option Misuse :=
  if (SocketAddress.ofText? value).isSome then none else some .valueValidation

/-- The levels that verbosity can be set to. -/
def verbosities : List String := ["trace", "debug", "info", "warn", "error", "none"]

/-- Verbosity must be one of the known levels. -/
def verifyVerbosity (value : String) : Option Misuse :=
  if verbosities.contains value then none else some .invalidValue

/-- The natural number below `2 ^ 64` that a text denotes; it may have a plus sign. -/
def countOf? (value : String) : Option Nat :=
  let digits :=
    match value.toList with
    | '+' :: digits => digits
    | digits => digits
  if digits.isEmpty then none
  else
    match readDigits 10 0 0 digits with
    | (_, count, []) => if count < UInt64.size then some count else none
    | _ => none

/-- The number of threads must be a natural number. -/
def verifyThreads (value : String) : Option Misuse :=
  if (countOf? value).isSome then none else some .valueValidation

/-- The options that both commands take. -/
def configOptions : List Parameter := [
  { name := "config", short? := some 'c', verify := verifyPath },
  { name := "data-dir", short? := some 'd', verify := verifyPath },
  { name := "dispatch-urls", many := true, divided := true }]

/-- The options of the program itself, which its commands take as well. -/
def globalOptions : List Parameter := [
  { name := "verbosity", short? := some 'v', verify := verifyVerbosity },
  { name := "threads", verify := verifyThreads }]

/-- The grammar of `serve`. -/
def serveGrammar : Grammar where
  options := configOptions ++
    [{ name := "listener", short? := some 'l', verify := verifyListener }]

/-- The grammar of `check`. -/
def checkGrammar : Grammar where
  options := configOptions
  positionals := [
    { name := "application", positional := true, required := true },
    { name := "chains", positional := true, many := true, required := true }]

/-- The grammar before a command. -/
def programGrammar : Grammar where
  subcommands := ["serve", "check", "help"]

/-- The grammar with the options of the program added. -/
def Grammar.withGlobals (grammar : Grammar) : Grammar :=
  { grammar with options := grammar.options ++ globalOptions }

/-- How the program is used. -/
def usageText : String :=
  "usage: serve [options]\n       check [options] <application> <chain>...\n"

/-! ## Reading -/

/-- The settings that were given. -/
def overridesOf (values : Progress) : Overrides where
  configFile? := values.valueOf? "config"
  dataDirectory? := values.valueOf? "data-dir"
  dispatchUrls? :=
    if values.has "dispatch-urls" then some (values.valuesOf "dispatch-urls") else none

/-- The command of a name and the values of its parameters. -/
def commandOf (name : String) (values : Progress) : Command :=
  if name = "serve" then
    .serve (overridesOf values) ((values.valueOf? "listener").bind SocketAddress.ofText?)
  else
    .check (overridesOf values) ((values.valueOf? "application").getD "")
      (values.valuesOf "chains")

/-- The misuse that the command `help` ends with. -/
def helpFor : List String → Misuse
  | [] => .displayHelp
  | name :: names =>
      if programGrammar.subcommands.contains name ∧ names.isEmpty then .displayHelp
      else .invalidSubcommand

/-- The command that the arguments give, with the values of the options before it and after it.
`widen` is applied to every grammar. -/
def readCommand (widen : Grammar → Grammar) (program : Grammar) (arguments : List String) :
    Except Misuse (Command × Progress × Progress) := do
  let (before, command?) ← (widen program).takeAll {} arguments
  match command? with
  | some (name, rest) =>
      if name = "help" then
        throw (helpFor rest)
      let grammar := if name = "serve" then serveGrammar else checkGrammar
      let after ← (widen grammar).parse rest
      let before ← before.resolve
      return (commandOf name after, before, after)
  | none =>
      let before ← before.resolve
      throw (if program.helpful ∧ before.values.isEmpty then .displayHelpOnMissing
        else .missingSubcommand)

/-- The command that the arguments give, without options of the program itself. -/
def Command.ofArguments (arguments : List String) : Except Misuse Command := do
  let (command, _, _) ← readCommand id programGrammar arguments
  return command

/-! ## Configuration -/

/-- The configuration of a command: the file, or else the defaults, with the settings that take
precedence. -/
def Overrides.config (overrides : Overrides) (files : Files) : Except Error Config := do
  let config ←
    match overrides.configFile? with
    | some path => Config.load files path
    | none => pure {}
  return { config with
    dataDirectory := overrides.dataDirectory?.getD config.dataDirectory
    dispatchUrls := overrides.dispatchUrls?.getD config.dispatchUrls }

end ChainGateway.CommandLine
