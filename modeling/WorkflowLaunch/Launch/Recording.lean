import WorkflowLaunch.Launch.Sequence

set_option autoImplicit false

/-!
Ways of building servers that tell what a launch did with them: one that notes the calls of
another, one that keeps the state in which a run began, and one whose results are given beforehand.
-/

namespace WorkflowLaunch

/-- A call that a launch makes, and whether it succeeded. -/
inductive Call where
  | interrupt
  | build (set : DirectiveSet) (succeeded : Bool)
  | start (succeeded : Bool)
  | run (succeeded : Bool)
  deriving DecidableEq

namespace Call

@[simp]
def isInterrupt : Call → Bool
  | interrupt => true
  | _ => false

/-- The directives of a build. -/
@[simp]
def directives? : Call → Option DirectiveSet
  | build set _ => some set
  | _ => none

@[simp]
def isStart : Call → Bool
  | start _ => true
  | _ => false

@[simp]
def isRun : Call → Bool
  | run _ => true
  | _ => false

end Call

/-- The calls of a launch, in their order. -/
abbrev Tally := List Call

namespace Tally

@[simp]
def none : Tally := []

@[simp]
def interrupted (tally : Tally) : Nat := tally.countP Call.isInterrupt

/-- The directives of each build. -/
@[simp]
def built (tally : Tally) : List DirectiveSet := tally.filterMap Call.directives?

@[simp]
def started (tally : Tally) : Nat := tally.countP Call.isStart

@[simp]
def ran (tally : Tally) : Nat := tally.countP Call.isRun

end Tally

/-- The results of the three calls. -/
structure Script where
  build : Except ServerFault Unit
  start : Except ServerFault Unit
  run : Except ServerFault Unit

namespace Script

def succeeding : Script := ⟨.ok (), .ok (), .ok ()⟩

def failingBuild (fault : ServerFault) : Script := { succeeding with build := .error fault }

def failingStart (fault : ServerFault) : Script := { succeeding with start := .error fault }

def failingRun (fault : ServerFault) : Script := { succeeding with run := .error fault }

end Script

namespace Factory

variable {σ S : Type}

/-- The same results, with every call noted behind those before it. -/
def counted (factory : Factory σ S) : Factory (σ × Tally) S where
  build set world :=
    let (result, inner) := factory.build set world.1
    (result, inner, world.2 ++ [.build set result.isOk])
  start server world :=
    let (result, server, inner) := factory.start server world.1
    (result, server, inner, world.2 ++ [.start result.isOk])
  run server world :=
    let (result, server, inner) := factory.run server world.1
    (result, server, inner, world.2 ++ [.run result.isOk])

/-- The same results. Also keeps the server and the world with which the last run began. -/
def watched (factory : Factory σ S) : Factory (σ × Option (S × σ)) S where
  build set world :=
    let (result, inner) := factory.build set world.1
    (result, inner, world.2)
  start server world :=
    let (result, server, inner) := factory.start server world.1
    (result, server, inner, world.2)
  run server world :=
    let (result, after, inner) := factory.run server world.1
    (result, after, inner, some (server, world.1))

/-- Servers that do nothing but give the results of a script. -/
def scripted (script : Script) : Factory σ Unit where
  build _ world := (script.build, world)
  start _ world := (script.start, (), world)
  run _ world := (script.run, (), world)

end Factory

/-- The same hooks, with every call of their source noted. -/
def Launch.counted {σ : Type} (interrupt : σ → Hook × σ) (world : σ × Tally) : Hook × σ × Tally :=
  let (hook, inner) := interrupt world.1
  (hook, inner, world.2 ++ [.interrupt])

end WorkflowLaunch
