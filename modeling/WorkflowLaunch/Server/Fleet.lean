import WorkflowLaunch.Server.Basic

set_option autoImplicit false

/-!
Several servers in one world. Steps on them come in any order; a server is named by the number of
builds before its own, failed ones included.
-/

namespace WorkflowLaunch

open Network (SocketAddress)

structure Fleet where
  servers : List (Option Server)
  hooks : List (String × Hook)
  world : World

namespace Fleet

def ofFiles (files : FileSystem) : Fleet := ⟨[], [], ⟨files, [], .none⟩⟩

inductive Step where
  | build (settings : Settings)
  | start (server : Nat)
  | run (server : Nat)
  | trigger (server : Nat)
  | drop (server : Nat)
  | interrupt (hook : Hook)

inductive Answer where
  | ready (server : Server)
  | failed (fault : ServerFault)
  | stopped (waited : Bool)
  | done
  | noServer

/-- An answer and the lines that the server logged meanwhile. -/
structure Reply where
  answer : Answer
  logged : List Log.Line

def server? (fleet : Fleet) (number : Nat) : Option Server := fleet.servers[number]?.join

/-- The hook of a name, made when the name is first used. -/
def hookNamed (fleet : Fleet) (name : String) : Hook × Fleet :=
  match fleet.hooks.find? (·.1 == name) with
  | some (_, hook) => (hook, fleet)
  | none =>
    let (hook, interrupts) := fleet.world.interrupts.fresh
    (hook, { fleet with
      hooks := (name, hook) :: fleet.hooks
      world := { fleet.world with interrupts := interrupts } })

/-- Puts back a server after an operation on it, with the world that it left. -/
def settle (fleet : Fleet) (number : Nat) (effect : Server.Effect) : Fleet :=
  { fleet with servers := fleet.servers.set number (some effect.server), world := effect.world }

def lines (effect : Server.Effect) : List Log.Line :=
  effect.logged.map effect.server.logger.line

/-- `directives` is the value of the filter variable. -/
def step (directives : Option String) (fleet : Fleet) : Step → Reply × Fleet
  | .build settings =>
    match Server.build directives settings fleet.world with
    | (.ok server, world) =>
      (⟨.ready server, []⟩,
        { fleet with servers := fleet.servers ++ [some server], world := world })
    | (.error fault, world) =>
      (⟨.failed fault, []⟩, { fleet with servers := fleet.servers ++ [none], world := world })
  | .start number =>
    match fleet.server? number with
    | none => (⟨.noServer, []⟩, fleet)
    | some server =>
      let effect := server.start fleet.world
      let answer := match effect.result with
        | .ok () => Answer.ready effect.server
        | .error fault => .failed fault
      (⟨answer, lines effect⟩, fleet.settle number effect)
  | .run number =>
    match fleet.server? number with
    | none => (⟨.noServer, []⟩, fleet)
    | some server =>
      let (waited, effect) := server.runUntilTriggered fleet.world
      let answer := match effect.result with
        | .ok () => Answer.stopped waited
        | .error fault => .failed fault
      (⟨answer, lines effect⟩, fleet.settle number effect)
  | .trigger number =>
    match fleet.server? number with
    | none => (⟨.noServer, []⟩, fleet)
    | some server =>
      (⟨.done, []⟩, { fleet with world := fleet.world.trigger server.interrupt })
  | .drop number =>
    match fleet.server? number with
    | none => (⟨.noServer, []⟩, fleet)
    | some server =>
      (⟨.done, []⟩,
        { fleet with servers := fleet.servers.set number none, world := server.drop fleet.world })
  | .interrupt hook => (⟨.done, []⟩, { fleet with world := fleet.world.trigger hook })

/-- A build that was refused before it began. -/
def refuse (fleet : Fleet) (fault : ServerFault) : Reply × Fleet :=
  (⟨.failed fault, []⟩, { fleet with servers := fleet.servers ++ [none] })

end Fleet

end WorkflowLaunch
