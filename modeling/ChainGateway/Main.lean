import ChainGateway.FrontDoor.Request
import ChainGateway.Net.Message
import ChainGateway.Net.Replay
import ChainGateway.Program
import Std.Async.DNS
import Std.Async.TCP
import Std.Http.Server

/-!
# The command line

Reads the environment, the files that the command names and the answers of the network, and
prints what the program makes of them.  What is decided is decided elsewhere: here is only what
touches the world.
-/

open ChainGateway ChainGateway.CommandLine ChainGateway.Net ChainGateway.Text
open Std.Async

namespace ChainGateway.World

/-! ## Files -/

/-- Why a file cannot be read, with the number that the system gives the reason.  Some numbers
come negated. -/
def reasonOf : IO.Error → String
  | .noFileOrDirectory _ code details | .permissionDenied _ code details
  | .inappropriateType _ code details =>
      let code := if code < 0x80000000 then code else -code
      details.capitalize ++ " (os error " ++ Decimal.text code.toNat ++ ")"
  | error => toString error

/-- A path with the contents of its file, or the reason why there are none. -/
def readEntry (path : String) : IO (String × Except String Octets) := do
  try
    return (path, .ok (← IO.FS.readBinFile path).toList)
  catch error =>
    return (path, .error (reasonOf error))

/-- The files that have been read. -/
def filesOf (entries : List (String × Except String Octets)) : Files := fun path =>
  (entries.lookup path).getD (.error "not read")

/-- Reads what a command names: its configuration file, and the documents of the data
directory that the configuration leads to. -/
def readFiles (overrides : Overrides) : IO Files := do
  let configFile ← overrides.configFile?.toList.mapM readEntry
  match overrides.config (filesOf configFile) with
  | .error _ => return filesOf configFile
  | .ok config =>
      let directory := config.dataDirectory
      let documents ← [Repository.chainsPath directory, Repository.applicationsPath directory,
        Repository.balancersPath directory].mapM readEntry
      return filesOf (configFile ++ documents)

/-! ## Network -/

/-- Receives octets until the other side closes the connection. -/
partial def receiveAll (client : TCP.Socket.Client) (received : ByteArray) : Async ByteArray := do
  match ← client.recv? 65536 with
  | some octets => receiveAll client (received ++ octets)
  | none => return received

/-- Sends a message to a host and returns all that comes back. -/
def converseWith (host : String) (port : Nat) (message : Octets) : Async Octets := do
  let addresses : Array Std.Net.IPAddr ← DNS.getAddrInfo host (Decimal.text port)
  let port := port.toUInt16
  let address : Std.Net.SocketAddress ←
    match addresses[0]? with
    | some (Std.Net.IPAddr.v4 addr) => pure (.v4 { addr, port })
    | some (Std.Net.IPAddr.v6 addr) => pure (.v6 { addr, port })
    | none => throw (IO.userError "unknown host")
  let client ← TCP.Socket.Client.mk
  client.connect address
  client.send ⟨message.toArray⟩
  return (← receiveAll client .empty).toList

/-- Posts a document and returns what comes back.  Only plain HTTP is spoken. -/
def exchange (text : String) (document : Json.Value) : IO Delivery := do
  match Url.ofText? text with
  | some url =>
      if url.scheme = "http" then
        try
          let answer ← (converseWith (url.host?.getD "") url.port
            (postMessage url document)).block
          return .ofMessage answer
        catch _ => return .unanswered
      else return .unanswered
  | none => return .unanswered

/-- Runs a function of the network's answers again and again, each time with one more answer,
until it asks for nothing that has not been answered. -/
partial def converse {α : Type} (run : Tape → α × Tape) (answers : List Delivery) : IO α := do
  let (result, tape) := run { answers }
  match tape.asked? with
  | none => return result
  | some (url, document) => converse run (answers ++ [← exchange url document])

/-! ## Front door -/

/-- An open front door. -/
structure Door where
  gateway : Gateway
  backend : Backend Tape
  state : Std.Mutex (State Tape)

/-- Opens the front door of a gateway. -/
def Door.start (config : Config) (gateway : Gateway) : IO Door := do
  let state ← Std.Mutex.new (State.start config {} 0)
  return { gateway, backend := httpBackend .replay config.dispatchUrls, state }

/-- Answers a request, one after the other. -/
def Door.answer (door : Door) (request : FrontDoor.Request) : IO FrontDoor.Response :=
  door.state.atomically do
    let now ← IO.monoMsNow
    let draw ← IO.rand 0 0xFFFF
    let state ← get
    let handle (tape : Tape) : Except Fault (FrontDoor.Handled Tape) × Tape :=
      match FrontDoor.handle door.gateway door.backend draw { state with services := tape, now }
          request with
      | .ok handled => (.ok handled, handled.state.services)
      | .error fault => (.error fault, {})
    let handled : Except Fault (FrontDoor.Handled Tape) ← converse handle []
    match handled with
    | .ok handled =>
        set { handled.state with services := ({} : Tape) }
        return handled.response
    | .error _ => throw (IO.userError "the clock or a counter has passed its bound")

/-- A request as it came in. -/
def requestOf (incoming : Std.Http.Request Std.Http.Body.Stream) (body : ByteArray) :
    FrontDoor.Request where
  method := toString incoming.line.method
  uri := toString incoming.line.uri
  headers := incoming.line.headers.toList.map fun (name, value) =>
    (toString name, Utf8.encode (toString value))
  body := body.toList
  peer? :=
    (incoming.extensions.get Std.Http.Server.RemoteAddr).bind fun peer =>
      (SocketAddress.ofText? (toString peer)).map SocketAddress.ip

/-- Answers what came in. -/
def Door.respond (door : Door) (incoming : Std.Http.Request Std.Http.Body.Stream) :
    ContextAsync (Std.Http.Response Std.Http.Body.Any) := do
  let body : ByteArray ← incoming.body.readAll
  let response ← door.answer (requestOf incoming body)
  let status := (Std.Http.Status.ofCode none response.status.toUInt16).getD .ok
  let text ← (Std.Http.Response.Builder.new.status status).text response.body
  return text

/-- The address of a listener. -/
def addressOf (listener : SocketAddress) : Std.Net.SocketAddress :=
  match listener.ip with
  | .v4 a b c d => .v4 { addr := .ofParts a b c d, port := listener.port }
  | .v6 groups => .v6 { addr := ⟨groups⟩, port := listener.port }

/-- Serves until the program is ended from outside. -/
def serve (config : Config) (gateway : Gateway) : IO Unit := do
  let door ← Door.start config gateway
  let handler := Std.Http.Server.Handler.ofFn door.respond
  Async.block do
    let server ← Std.Http.Server.serve (addressOf config.listener) handler
    server.waitShutdown

end ChainGateway.World

open ChainGateway.World in
/-- Runs the program and prints what it ends with. -/
def main (arguments : List String) : IO UInt32 := do
  let environment : List (String × Option String) ←
    [logFormVariable, logLevelVariable].mapM fun name => return (name, ← IO.getEnv name)
  let files : Files ←
    match readCommand Grammar.withGlobals fullGrammar arguments with
    | .ok (command, _) => readFiles command.overrides
    | .error _ => pure (filesOf [])
  let now ← IO.monoMsNow
  let ending ← converse
    (fun tape => runProgram arguments (fun name => (environment.lookup name).join) files .replay
      tape now) []
  IO.print ending.output
  match ending with
  | .usage misuse => if misuse.isMistake then IO.eprint usageText
  | .serving config gateway => serve config gateway
  | _ => pure ()
  return ending.status.toUInt32
