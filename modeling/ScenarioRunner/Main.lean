import ScenarioRunner.CommandLine.Arguments
import ScenarioRunner.CommandLine.Commands
import ScenarioRunner.WebDriver.Exchange
import Std.Async.DNS
import Std.Async.TCP
import Std.Async.Timer

/-!
The program on the real terminal, clock, file system and network.
-/

namespace ScenarioRunner.Terminal

open Std.Async Std.Net WebDriver

/-- Bytes are gathered until a response is there as a whole. -/
partial def receive (socket : TCP.Socket.Client) (gathered : ByteArray) : Async Delivery := do
  match ← socket.recv? 65536 with
  | some bytes =>
    let gathered := gathered ++ bytes
    match Response.ofBytes? false gathered.data.toList with
    | some response => return .ok response
    | none => receive socket gathered
  | none =>
    match Response.ofBytes? true gathered.data.toList with
    | some response => return .ok response
    | none => return .error "connection closed before a response was complete"

def socketAddress (service : Nat) : IPAddr → SocketAddress
  | .v4 address => .v4 ⟨address, service.toUInt16⟩
  | .v6 address => .v6 ⟨address, service.toUInt16⟩

/-- The first address that accepts a connection. -/
def connectFirst (service : Nat) : List IPAddr → Async (Option TCP.Socket.Client)
  | [] => return none
  | address :: rest => do
    let socket ← TCP.Socket.Client.mk
    let connected ← try
        socket.connect (socketAddress service address)
        pure true
      catch _ => pure false
    if connected then return some socket else connectFirst service rest

/-- One request on a connection of its own. -/
def exchange (request : Request) : Async Delivery := do
  match Endpoint.ofUrl? request.url with
  | none => return .error ("address not supported: " ++ request.url)
  | some endpoint =>
    let addresses ← DNS.getAddrInfo endpoint.hostName (toString endpoint.service)
    match ← connectFirst endpoint.service addresses.toList with
    | none => return .error "connection refused"
    | some socket =>
      socket.send (request.toBytes endpoint)
      receive socket .empty

/-- A request takes no longer than the given number of seconds. -/
def server (seconds : Nat) : Server IO := fun request => do
  let limited : Async Delivery := Async.race (exchange request) do
    sleep (Std.Time.Millisecond.Offset.ofNat (seconds * 1000))
    return .error "operation timed out"
  try limited.block catch error => return .error (toString error)

/-- The session at hand and the seconds that its requests may take. -/
structure OpenSession where
  client : Client
  requestSeconds : Nat

/-- The reason of a failed operation on files. -/
def fileError : IO.Error → FileError
  | .noFileOrDirectory _ _ _ => .notFound
  | .alreadyExists _ _ _ => .alreadyExists
  | error => .other (toString error)

def onFiles {α : Type} (action : IO α) : IO (Except FileError α) := do
  try return .ok (← action) catch error => return .error (fileError error)

/-- An operation at a path that is a text. Others cannot be handed to the system. -/
def atPath {α : Type} (path : Path) (action : String → IO α) : IO (Except FileError α) := do
  match path.text? with
  | some text => onFiles (action text)
  | none => return .error (.other "path is no text")

/-- A path that can be opened leads to a file. -/
def fileExists (path : Path) : IO Bool := do
  match ← atPath path fun text => IO.FS.Handle.mk text .read with
  | .ok _ => return true
  | .error _ => return false

/-- The longest single rest, in milliseconds. -/
def longestRest : Nat := Nat.pow 2 31

/-- A pause of any length, in as many rests as it takes. -/
def rest (duration : Nat) : IO Unit := do
  for _ in [0:duration / longestRest] do
    IO.sleep longestRest.toUInt32
  IO.sleep (duration % longestRest).toUInt32

/-- An effect on the world as it is. -/
def enact (session : IO.Ref (Option OpenSession)) (stylesShown : Bool) :
    (effect : Effect) → IO effect.Answer
  | .call call => do
    match ← session.get with
    | none => return withoutSession call
    | some opened =>
      let (outcome, client) ← opened.client.perform (server opened.requestSeconds) call
      session.set (some { opened with client })
      return outcome
  | .openSession request => do
    match ← connect (server request.requestSeconds) request with
    | .error error => return .error error
    | .ok client =>
      session.set (some ⟨client, request.requestSeconds⟩)
      return .ok ()
  | .clock => IO.monoMsNow
  | .pause duration => rest duration
  | .note _ => return ()
  | .print text => do
    let output ← IO.getStdout
    output.putStr (text.render stylesShown)
    output.flush
  | .fileExists path => fileExists path
  | .readFile path => atPath path fun text => IO.FS.readBinFile text
  | .writeFile path content => atPath path fun text => IO.FS.writeBinFile text content
  | .createDirectory path => atPath path fun text => IO.FS.createDirAll text

/-- A program, effect by effect. -/
def perform {α : Type} (session : IO.Ref (Option OpenSession)) (stylesShown : Bool) :
    Program α → IO α
  | .done value => return value
  | .perform effect next => do
    let answer ← enact session stylesShown effect
    perform session stylesShown (next answer)

/-- A directory that the environment names, or else one below the home directory. -/
def baseDirectory (name fallback : String) : IO Path := do
  match ← IO.getEnv name with
  | some directory => return directory
  | none => return joinPath ((← IO.getEnv "HOME").getD "") fallback

/-- The places of the settings and of the log. -/
def locations : IO CommandLine.Locations := do
  return .below (← baseDirectory "XDG_CONFIG_HOME" ".config")
    (← baseDirectory "XDG_DATA_HOME" ".local/share")

/-- Styles are shown on a terminal whose user did not ask for none. -/
def stylesWanted : IO Bool := do
  return (← (← IO.getStdout).isTty) && (← IO.getEnv "NO_COLOR").isNone

def report (error : Error) : IO Unit := do
  IO.eprintln ("Error: " ++ error.message)
  match error with
  | .browserUnreachable _ _ =>
    IO.eprintln "Hint: start a driver first, e.g. 'chromedriver --port=4444'"
  | _ => return ()

/-- The words for a run that broke down. -/
def breakdownText : Breakdown → String
  | .beyondClock _ _ => "overflow when adding duration to instant"
  | .nothingToActOn => "index out of bounds: the len is 0 but the index is 0"
  | .unending => "a wait without an interval comes to no end"

def usage : String :=
  "Usage: " ++ CommandLine.programName ++ " run|validate|show|logs [ARGUMENTS]"

end ScenarioRunner.Terminal

open ScenarioRunner in
/-- Zero says that all went well, one that something failed, two that nothing was understood. A run that
breaks down has a code of its own. -/
def main (arguments : List String) : IO UInt32 := do
  match CommandLine.Command.ofArguments arguments with
  | none =>
    IO.eprintln Terminal.usage
    return 2
  | some command =>
    let session ← IO.mkRef none
    let program := (command.program (← Terminal.locations)).run
    match ← Terminal.perform session (← Terminal.stylesWanted) program with
    | .ok passed => return if passed then 0 else 1
    | .error (.failed error) =>
      Terminal.report error
      return 1
    | .error (.broken breakdown) =>
      IO.eprintln (Terminal.breakdownText breakdown)
      return 101
