import Std.Async.Signal
import Std.Http.Server
import WorkflowLaunch.FileSystem.Change
import WorkflowLaunch.Http.Trace
import WorkflowLaunch.Program

set_option autoImplicit false

/-!
The command line program. It reads the files that a launch may look at, reports what `Program.run`
says, and answers requests while a server waits for its interrupt.
-/

namespace WorkflowLaunch.Main

open Program (Invocation Report Service)
open Std.Async (Async ContextAsync Selectable Signal)

def textOf (location : Location) : String :=
  "/" ++ "/".intercalate (location.map Octets.lossy)

/-- What stands at a location. Links are followed. -/
def nodeAt? (location : Location) : IO (Option Node) := do
  let path := (← IO.currentDir) / textOf location
  if ← path.isDir then return some .directory
  let .ok content ← (IO.FS.readBinFile path).toBaseIO | return none
  return some (.file content.toList)

/-- The files on the way to the database file and its temporary sibling. -/
def readFiles (database : Option Path) : IO FileSystem := do
  let here := Path.locations [] (Path.ofString (toString (← IO.currentDir))).steps
  let mut files : FileSystem := ⟨here.map fun location => (location, .directory), here.getLastD []⟩
  for path in database.toList.flatMap fun path => [path, Store.temporaryPath path] do
    let root := if path.isAbsolute then [] else files.workingDirectory
    for location in Path.locations root path.steps do
      if let some node ← nodeAt? location then files := files.put location node
  return files

/-- Brings the files from one state to another. A file appears with its whole content at once. -/
def writeFiles (before after : FileSystem) : IO Unit := do
  for location in FileSystem.removed before after do
    IO.FS.removeFile (textOf location)
  for (location, node) in FileSystem.added before after do
    match node with
    | .directory => IO.FS.createDir (textOf location)
    | .file content =>
      let temporary := textOf location ++ ".tmp"
      IO.FS.writeBinFile temporary ⟨content.toArray⟩
      IO.FS.rename temporary (textOf location)
    | .link _ => pure ()

def timeFormat : String := "uuuu-MM-dd'T'HH:mm:ss.SSSSSS'Z'"

/-- Prints lines of a log, JSON to the output and coloured text to the errors. -/
def printLines (lines : List Log.Line) : IO Unit := do
  let now ← Std.Time.Timestamp.now
  let time := (Std.Time.DateTime.ofTimestampWithZone now .UTC).format timeFormat
  for line in lines do
    match line with
    | .json _ => IO.println (line.stamped time)
    | .text _ => IO.eprintln (line.stamped time)
  (← IO.getStdout).flush

def socketAddress (address : Network.SocketAddress) : Std.Net.SocketAddress :=
  match address.ip with
  | .four octets =>
    let octet (n : Nat) : UInt8 := UInt8.ofNat (octets.getD n 0)
    .v4 ⟨.ofParts (octet 0) (octet 1) (octet 2) (octet 3), address.port⟩
  | .six groups =>
    let group (n : Nat) : UInt16 := UInt16.ofNat (groups.getD n 0)
    .v6 ⟨.ofParts (group 0) (group 1) (group 2) (group 3) (group 4) (group 5) (group 6) (group 7),
      address.port⟩

/-- Answers a request to a server and logs it. -/
def answer (server : Server) (request : Std.Http.Request Std.Http.Body.Stream) :
    ContextAsync (Std.Http.Response Std.Http.Body.Any) := do
  let request : Http.Request := ⟨toString request.line.method, toString request.line.uri⟩
  let response := Http.respond server.store.catalog request
  printLines (Http.trace server.logger request response)
  -- The connection leaves out the body that nobody asked for, but needs to know its length.
  let whole :=
    if request.method = "HEAD" then
      Http.respond server.store.catalog { request with method := "GET" }
    else response
  let status := (Std.Http.Status.ofCode none (UInt16.ofNat response.status)).getD .ok
  let builder := response.headers.foldl
    (fun builder (name, value) => (builder.header? name value).getD builder)
    (Std.Http.Response.withStatus status)
  let body ← Std.Http.Body.Full.ofString whole.body
  return builder.body (Std.Http.Body.Any.ofBody body)

/-- Listens on the address of a server, unless somebody else does. -/
def listen? (server : Server) : IO (Option Std.Http.Server) := do
  let handler := Std.Http.Server.Handler.ofFn (answer server)
  let listening := Std.Http.Server.serve (socketAddress server.address) handler
  match ← listening.block.toBaseIO with
  | .ok frontend => return some frontend
  | .error _ => return none

/-- Ends when the program is asked to end. -/
def waitForInterrupt : Async Unit := do
  let interrupted ← Signal.Waiter.mk .sigint false
  let terminated ← Signal.Waiter.mk .sigterm false
  Selectable.one #[.case interrupted.selector pure, .case terminated.selector pure]

/-- Serves until the program is asked to end. -/
def serve (before : FileSystem) (service : Service) (frontend : Std.Http.Server) : IO Unit := do
  writeFiles before service.files
  printLines service.log
  waitForInterrupt.block
  frontend.shutdownAndWait.block

/-- Prints the rest of a report and leaves the files as it says. -/
def finish (files : FileSystem) (printed : Nat) (report : Report) : IO UInt32 := do
  writeFiles files report.files
  printLines (report.log.drop printed)
  IO.print report.output
  IO.eprint report.errors
  return report.exitCode.toUInt32

def pathVariable (name : String) : IO (Option Path) :=
  return (← IO.getEnv name).map Path.ofString

def runProgram (invocation : Invocation) : IO UInt32 := do
  let files ← readFiles (Program.databaseFile? invocation)
  let report := Program.run invocation [] files
  match report.service with
  | none => finish files 0 report
  | some service => match ← listen? service.server with
    | some frontend =>
      serve files service frontend
      finish service.files service.log.length report
    | none => finish files 0 (Program.run invocation [service.server.address] files)

end WorkflowLaunch.Main

def main (arguments : List String) : IO UInt32 := do
  let words := toString (← IO.appPath) :: arguments
  WorkflowLaunch.Main.runProgram
    { words := words.map WorkflowLaunch.Octets.ofString
      home := ← WorkflowLaunch.Main.pathVariable "HOME"
      cache := ← WorkflowLaunch.Main.pathVariable "XDG_CACHE_HOME"
      directives := ← IO.getEnv "WORKFLOW_LITE_LOG" }
