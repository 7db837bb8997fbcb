import ChainGateway.CommandLine.Command
import ChainGateway.Json.Indented
import ChainGateway.LogSettings
import ChainGateway.Serving

/-!
# The program

What the program does with its arguments, its environment and the files it can read: it ends
with an exit status and an output, or it goes on to serve.  Nothing here performs input or
output.
-/

namespace ChainGateway

open CommandLine Json Net

/-- The configuration under which the front door is opened. -/
def serveConfig (overrides : Overrides) (listener? : Option SocketAddress) (files : Files) :
    Except Error Config := do
  let config ← overrides.config files
  return { config with listener := listener?.getD config.listener }

/-- The gateway that the front door is opened for. -/
def prepareServing (overrides : Overrides) (listener? : Option SocketAddress) (files : Files) :
    Except Error (Config × Gateway) := do
  let config ← serveConfig overrides listener? files
  return (config, ← Gateway.ofFiles files config)

/-- Runs a check: the nodes that serve the chains by session key, or why there is no check, and
the state of the network after it. -/
def runCheck {σ : Type} (overrides : Overrides) (application : String) (chains : List String)
    (files : Files) (network : Network σ) (state : σ) (now : Instant) :
    Except Fault (Except Error (Table String (List Node)) × σ) :=
  let prepared : Except Error (Config × Gateway × Application × List Blockchain) := do
    let config ← overrides.config files
    let gateway ← Gateway.ofFiles files config
    let (application, chains) ← gateway.checked application chains
    return (config, gateway, application, chains)
  match prepared with
  | .error error => .ok (.error error, state)
  | .ok (config, gateway, application, chains) =>
      let start := State.start config state now
      let backend := httpBackend network config.dispatchUrls
      (gateway.check backend start application chains none).map fun report =>
        (.ok report.supporting, report.state.services)

/-- The document that shows the result of a check. -/
def supportingValue (supporting : Table String (List Node)) : Value :=
  .ofMembers (supporting.entries.map fun (key, nodes) =>
    (key, .array (nodes.map Node.schema.toValue)))

/-- How the program ends, if it ends. -/
inductive Ending where
  /-- The arguments are misused, or ask for help. -/
  | usage (misuse : Misuse)
  /-- The result of a check is shown. -/
  | checked (supporting : Table String (List Node))
  /-- The program fails with a message. -/
  | failed (message : String)
  /-- The program breaks down. -/
  | aborted
  /-- The front door is open. -/
  | serving (config : Config) (gateway : Gateway)

/-- The exit status of an ending. -/
def Ending.status : Ending → Nat
  | .usage misuse => if misuse.isMistake then 2 else 0
  | .checked _ => 0
  | .failed _ => 1
  | .aborted => 101
  | .serving .. => 0

/-- What the program prints when its version is asked for. -/
def versionText : String := "relaygate 0.1.0"

/-- What the program prints at an ending. -/
def Ending.output : Ending → String
  | .usage .displayHelp => usageText
  | .usage .displayVersion => versionText ++ "\n"
  | .checked supporting => (supportingValue supporting).indented ++ "\n"
  | .failed message => "error: " ++ message ++ "\n"
  | .usage _ | .aborted | .serving .. => ""

/-- The grammar of the program before a command. -/
def fullGrammar : Grammar :=
  { programGrammar with versioned := true, helpful := true }

/-- The environment variable with the form of log records. -/
def logFormVariable : String := "LOG_TYPE"

/-- The environment variable with the level of log records. -/
def logLevelVariable : String := "LOG_LEVEL"

/-- The number of threads that was asked for; the command's own option takes precedence. -/
def threadsOf (before after : Progress) : Option Nat :=
  ((after.valueOf? "threads").or (before.valueOf? "threads")).bind countOf?

/-- Runs a command; returns how it ends and the state of the network after it. -/
def runCommand {σ : Type} (command : Command) (files : Files) (network : Network σ) (state : σ)
    (now : Instant) : Ending × σ :=
  match command with
  | .serve overrides listener? =>
      match prepareServing overrides listener? files with
      | .error error => (.failed error.message, state)
      | .ok (config, gateway) => (.serving config gateway, state)
  | .check overrides application chains =>
      match runCheck overrides application chains files network state now with
      | .error _ => (.aborted, state)
      | .ok (.error error, state) => (.failed error.message, state)
      | .ok (.ok supporting, state) => (.checked supporting, state)

/-- Runs the program; returns how it ends and the state of the network after it. -/
def runProgram {σ : Type} (arguments : List String) (environment : String → Option String)
    (files : Files) (network : Network σ) (state : σ) (now : Instant) : Ending × σ :=
  match readCommand Grammar.withGlobals fullGrammar arguments with
  | .error misuse => (.usage misuse, state)
  | .ok (command, before, after) =>
      if threadsOf before after = some 0 then (.aborted, state)
      else
        match checkLogSettings (environment logFormVariable) (environment logLevelVariable) with
        | .error reason => (.failed reason, state)
        | .ok () => runCommand command files network state now

end ChainGateway
