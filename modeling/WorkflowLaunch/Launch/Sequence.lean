import WorkflowLaunch.Launch.Composition
import WorkflowLaunch.Launch.Stage
import WorkflowLaunch.Server.Basic

set_option autoImplicit false

/-!
The launch sequence: check the request, resolve its attributes, compose directives, build a server
from them, start it and run it. Every failure ends the sequence; nothing is retried. The sequence
is the same for every way of building servers and every source of interrupt hooks.
-/

namespace WorkflowLaunch

/-- A way of building servers of type `S` in a world `σ`. -/
structure Factory (σ S : Type) where
  build : DirectiveSet → σ → Except ServerFault S × σ
  start : S → σ → Except ServerFault Unit × S × σ
  run : S → σ → Except ServerFault Unit × S × σ

/-- How a launch ends, the transitions on the way and the world after it. -/
structure Launched (σ : Type) where
  result : Except Failure Completed
  transitions : List Transition
  world : σ

namespace Launch

variable {σ S : Type}

def stoppedMessage : String := "All services are stopped."

/-- The failure in a stage behind some transitions. -/
def fail (transitions : List Transition) (stage : Stage) (message : String) (world : σ) :
    Launched σ :=
  ⟨.error ⟨message, 1, stage⟩, transitions ++ [.failed stage message], world⟩

def runStage (factory : Factory σ S) (transitions : List Transition) (server : S) (world : σ) :
    Launched σ :=
  let transitions := transitions ++ [.advanced .starting .running]
  match factory.run server world with
  | (.error fault, _, world) =>
    fail transitions .running s!"Server terminated with error: {fault.message}" world
  | (.ok (), _, world) =>
    ⟨.ok ⟨stoppedMessage⟩, transitions ++ [.advanced .running .stopped], world⟩

def startStage (factory : Factory σ S) (transitions : List Transition) (server : S) (world : σ) :
    Launched σ :=
  let transitions := transitions ++ [.advanced .constructing .starting]
  match factory.start server world with
  | (.error fault, _, world) =>
    fail transitions .starting s!"Unable to start server. Error: {fault.message}" world
  | (.ok (), server, world) => runStage factory transitions server world

def buildStage (factory : Factory σ S) (transitions : List Transition) (set : DirectiveSet)
    (world : σ) : Launched σ :=
  let transitions := transitions ++ [.advanced .composing .constructing]
  match factory.build set world with
  | (.error fault, world) => fail transitions .constructing fault.message world
  | (.ok server, world) => startStage factory transitions server world

/-- `interrupt` gives the hook, `directives` is the value of the filter variable. -/
def composeStage (factory : Factory σ S) (interrupt : σ → Hook × σ) (directives : Option String)
    (transitions : List Transition) (source : Stage) (plan : Plan) (world : σ) : Launched σ :=
  let transitions := transitions ++ [.advanced source .composing]
  let (hook, world) := interrupt world
  match plan.compose hook directives with
  | .error fault => fail transitions .composing fault.message world
  | .ok set => buildStage factory transitions set world

def launch (factory : Factory σ S) (interrupt : σ → Hook × σ) (directives : Option String)
    (request : Request) (world : σ) : Launched σ :=
  match request.check with
  | .error fault => fail [] .validating fault.message world
  | .ok ⟨plan, none⟩ => composeStage factory interrupt directives [] .validating plan world
  | .ok ⟨plan, some declaration⟩ =>
    let transitions := [.advanced .validating .parsing]
    match declaration.resolve with
    | .error fault => fail transitions .parsing fault.message world
    | .ok attributes =>
      composeStage factory interrupt directives transitions .parsing
        { plan with attributes := some attributes } world

end Launch

end WorkflowLaunch
