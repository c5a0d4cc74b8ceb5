import WorkflowLaunch.Network.Notation
import WorkflowLaunch.Server.Settings
import WorkflowLaunch.Text.Quoted

set_option autoImplicit false

/-!
Servers: built from settings, started, run until their hook is triggered. Starting binds the
address, enters the namespaces and attributes of the settings into the catalog and writes it; the
address is held from a start that succeeds until the next run ends or the server is dropped.
-/

namespace WorkflowLaunch

open Attribute (Entry ValueType)
open Network (Ip SocketAddress)

/-- What servers share: the files, the addresses that are held and the hooks. -/
structure World where
  files : FileSystem
  held : List SocketAddress
  interrupts : Interrupts

def World.trigger (world : World) (hook : Hook) : World :=
  { world with interrupts := world.interrupts.trigger hook }

def World.release (world : World) (address : SocketAddress) : World :=
  { world with held := world.held.erase address }

inductive ServerFault where
  | invalidPort (port : UInt16)
  | invalidAddress (text : String)
  | blankNamespace
  | filter (fault : Log.FilterFault)
  | store (fault : StoreFault)
  | bind (address : SocketAddress)
  | frontend (reason : String)
  | notStarted
  deriving DecidableEq

def ServerFault.message : ServerFault → String
  | invalidPort port => s!"invalid frontend port: {port}"
  | invalidAddress text =>
    s!"invalid frontend address {Text.quoted text}: invalid IP address syntax"
  | blankNamespace => "namespace names must not be empty"
  | filter fault => fault.message
  | store fault => fault.message
  | bind address =>
    s!"unable to bind frontend to {address.text}: Address already in use (os error 98)"
  | frontend reason => s!"frontend failed: {reason}"
  | notStarted => "server has not been started"

structure Server where
  settings : Settings
  address : SocketAddress
  store : Store
  logger : Log.Logger
  interrupt : Hook
  listening : Bool
  deriving DecidableEq

namespace Server

/-- The target of the events of a server. -/
def logTarget : String := "workflow_lite::server"

def event (level : Log.Level) (message : String) (fields : List (String × Log.Datum)) : Log.Event :=
  ⟨level, logTarget, message, fields, []⟩

/-- The address in some settings. -/
def addressOf (settings : Settings) : Except ServerFault SocketAddress :=
  if settings.port = 0 then .error (.invalidPort settings.port)
  else match Ip.ofText? settings.ip with
    | none => .error (.invalidAddress settings.ip)
    | some ip =>
      if settings.namespaces.any Text.blank then .error .blankNamespace
      else .ok ⟨ip, settings.port⟩

/-- The logger in some settings, or the JSON logger with the filter of the environment. -/
def loggerOf (settings : Settings) (directives : Option String) :
    Except ServerFault Log.Logger :=
  match settings.logger with
  | some logger => .ok logger
  | none => (Log.Logger.ofEnvironment .json directives).mapError .filter

def hookOf (settings : Settings) (interrupts : Interrupts) : Hook × Interrupts :=
  match settings.interrupt with
  | some hook => (hook, interrupts)
  | none => interrupts.fresh

/-- Checks the settings, resolves the logger and opens the store, in this order. `directives` is
the value of the filter variable. -/
def build (directives : Option String) (settings : Settings) (world : World) :
    Except ServerFault Server × World :=
  let resolved : Except ServerFault (SocketAddress × Log.Logger) := do
    let address ← addressOf settings
    return (address, ← loggerOf settings directives)
  match resolved with
  | .error fault => (.error fault, world)
  | .ok (address, logger) =>
    match Store.openAt world.files settings.storage with
    | (.error fault, files) => (.error (.store fault), { world with files := files })
    | (.ok store, files) =>
      let (hook, interrupts) := hookOf settings world.interrupts
      (.ok ⟨settings, address, store, logger, hook, false⟩,
        { world with files := files, interrupts := interrupts })

/-- Enters namespaces into a catalog. Also gives the event of each. -/
def enterNamespaces (catalog : Catalog) : List String → Catalog × List Log.Event
  | [] => (catalog, [])
  | name :: rest =>
    let (created, catalog) := catalog.createNamespace name
    let entered :=
      if created then event .info "Namespace created" [("namespace", .text name)]
      else event .debug "Namespace already exists" [("namespace", .text name)]
    let (catalog, events) := enterNamespaces catalog rest
    (catalog, entered :: events)

/-- Enters attributes into a catalog up to the first conflict. Also gives an event for each new
one. -/
def enterAttributes (catalog : Catalog) :
    List Entry → Except AttributeConflict Unit × Catalog × List Log.Event
  | [] => (.ok (), catalog, [])
  | (name, type) :: rest => match catalog.register name type with
    | .error conflict => (.error conflict, catalog, [])
    | .ok (added, catalog) =>
      let (result, catalog, events) := enterAttributes catalog rest
      let entered := if added then
          [event .info "Search attribute registered"
            [("name", .text name), ("attribute_type", .text type.name)]]
        else []
      (result, catalog, entered ++ events)

/-- What an operation on a server gives: its result, the server and the world after it, and the
events that its logger wrote. -/
structure Effect where
  result : Except ServerFault Unit
  server : Server
  world : World
  logged : List Log.Event

/-- The event of a start that succeeded. -/
def startedEvent (server : Server) : Log.Event :=
  event .info "Server started"
    [("address", .text server.address.text), ("ephemeral", .flag server.store.isEphemeral),
      ("namespaces", .count server.store.catalog.namespaces.length),
      ("search_attributes", .count server.store.catalog.attributes.size)]

/-- Binds the address, enters the settings' namespaces and attributes and writes the catalog. On a
failure the address is not held, but what was entered stays in the catalog. -/
def start (server : Server) (world : World) : Effect :=
  if server.address ∈ world.held then ⟨.error (.bind server.address), server, world, []⟩
  else
    let (catalog, created) := enterNamespaces server.store.catalog server.settings.namespaces
    let (entered, catalog, registered) := enterAttributes catalog server.settings.attributes.entries
    let server := { server with store := { server.store with catalog := catalog } }
    let logged := server.logger.written (created ++ registered)
    match entered with
    | .error conflict => ⟨.error (.store (.conflict conflict)), server, world, logged⟩
    | .ok () => match server.store.flush world.files with
      | (.error fault, files) =>
        ⟨.error (.store fault), server, { world with files := files }, logged⟩
      | (.ok (), files) =>
        ⟨.ok (), { server with listening := true },
          { world with files := files, held := server.address :: world.held },
          logged ++ server.logger.written [startedEvent server]⟩

/-- A run waits for the hook of its server, or it has ended. -/
inductive Run where
  | waiting
  | ended (effect : Effect)

def servingEvent (server : Server) : Log.Event :=
  event .info "Frontend serving" [("address", .text server.address.text)]

def stoppedEvent : Log.Event := event .info "Server stopped" []

/-- What happens once the front end was told to stop: the address is released and the catalog is
written. -/
def stop (server : Server) (world : World) : Effect :=
  let world := world.release server.address
  let stopped := { server with listening := false }
  match server.store.flush world.files with
  | (.error fault, files) =>
    ⟨.error (.store fault), stopped, { world with files := files },
      server.logger.written [servingEvent server]⟩
  | (.ok (), files) =>
    ⟨.ok (), stopped, { world with files := files },
      server.logger.written [servingEvent server, stoppedEvent]⟩

/-- Serves until the hook is triggered. -/
def run (server : Server) (world : World) : Run :=
  if server.listening then
    if world.interrupts.isTriggered server.interrupt then .ended (server.stop world) else .waiting
  else .ended ⟨.error .notStarted, server, world, []⟩

/-- A run during which the hook is triggered, if it was not before. Also tells whether the run had
to wait for that. -/
def runUntilTriggered (server : Server) (world : World) : Bool × Effect :=
  match server.run world with
  | .ended effect => (false, effect)
  | .waiting => (true, server.stop (world.trigger server.interrupt))

/-- Gives up the server, and the address if it holds one. -/
def drop (server : Server) (world : World) : World :=
  if server.listening then world.release server.address else world

end Server

end WorkflowLaunch
