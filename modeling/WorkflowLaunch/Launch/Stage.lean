set_option autoImplicit false

/-!
The stages of a launch, and how it ends.
-/

namespace WorkflowLaunch

inductive Stage where
  | validating
  | parsing
  | composing
  | constructing
  | starting
  | running
  | stopped
  | failed
  deriving DecidableEq, Repr

namespace Stage

def all : List Stage :=
  [.validating, .parsing, .composing, .constructing, .starting, .running, .stopped, .failed]

def name : Stage → String
  | validating => "validating"
  | parsing => "parsing"
  | composing => "composing"
  | constructing => "constructing"
  | starting => "starting"
  | running => "running"
  | stopped => "stopped"
  | failed => "failed"

def ofName? (name : String) : Option Stage := all.find? (·.name == name)

end Stage

/-- A launch that failed: what is reported, the exit status and the stage it was in. -/
structure Failure where
  message : String
  exitCode : UInt8
  stage : Stage
  deriving DecidableEq, Repr

/-- A launch that ended well, or asked for help or the version only. -/
structure Completed where
  message : String
  deriving DecidableEq, Repr

/-- A step from one stage to the next, or the failure in a stage. -/
inductive Transition where
  | advanced (source target : Stage)
  | failed (source : Stage) (reason : String)
  deriving DecidableEq, Repr

end WorkflowLaunch
