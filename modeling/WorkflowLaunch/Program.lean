import WorkflowLaunch.Launch.Recording
import WorkflowLaunch.Launch.Servers
import WorkflowLaunch.Launch.Words

set_option autoImplicit false

/-!
The program: a launch from the command line, reported as an exit status and what is printed.
-/

namespace WorkflowLaunch.Program

open Network (SocketAddress)

/-- What the program takes from outside. -/
structure Invocation where
  words : List Octets
  home : Option Path
  cache : Option Path
  directives : Option String

/-- The state in which a server waits for its interrupt, and the lines that were logged before. -/
structure Service where
  server : Server
  log : List Log.Line
  files : FileSystem

/-- What is printed, the status and the files at the end, and the state in which the program waited
if it came so far. -/
structure Report where
  exitCode : UInt8
  output : String
  errors : String
  log : List Log.Line
  files : FileSystem
  service : Option Service

/-- A world with a fresh hook, the one that the program triggers when it is asked to end. -/
def interrupt {α : Type} (world : Site × α) : Hook × Site × α :=
  let (hook, interrupts) := world.1.world.interrupts.fresh
  (hook, { world.1 with world := { world.1.world with interrupts := interrupts } }, world.2)

/-- The file that a launch keeps its state in, if the command line asks for one. -/
def databaseFile? (invocation : Invocation) : Option Path :=
  let standard := Standard.ofEnvironment invocation.home invocation.cache
  match CommandLine.read invocation.words standard with
  | .ok request => match request.persistence with
    | .file path => some path
    | .ephemeral _ => none
  | .error _ => none

/-- The service of a server whose run began on a site. -/
def serviceOf (server : Server) (site : Site) : Service :=
  ⟨server, site.log ++ (server.logger.written [server.servingEvent]).map server.logger.line,
    site.world.files⟩

/-- `held` are the addresses that others listen on. -/
def run (invocation : Invocation) (held : List SocketAddress) (files : FileSystem) : Report :=
  let standard := Standard.ofEnvironment invocation.home invocation.cache
  let factory := (Server.factory standard invocation.directives).watched
  let launched := Launch.launchWords factory interrupt invocation.directives standard
    invocation.words (⟨⟨files, held, .none⟩, []⟩, none)
  let (site, waited) := launched.world
  let service := waited.map fun (server, site) => serviceOf server site
  match launched.result with
  | .ok completed => ⟨0, completed.message ++ "\n", "", site.log, site.world.files, service⟩
  | .error failure =>
    ⟨failure.exitCode, "", failure.message ++ "\n", site.log, site.world.files, service⟩

end WorkflowLaunch.Program
