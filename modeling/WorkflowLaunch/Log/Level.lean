set_option autoImplicit false

/-!
How severe an event is, and how much a rule lets through.
-/

namespace WorkflowLaunch.Log

inductive Level where
  | error
  | warn
  | info
  | debug
  | trace
  deriving DecidableEq, Repr

def Level.rank : Level → Nat
  | error => 1
  | warn => 2
  | info => 3
  | debug => 4
  | trace => 5

def Level.name : Level → String
  | error => "ERROR"
  | warn => "WARN"
  | info => "INFO"
  | debug => "DEBUG"
  | trace => "TRACE"

def Level.all : List Level := [.error, .warn, .info, .debug, .trace]

def Level.ofName? (name : String) : Option Level := Level.all.find? (·.name == name)

/-- Nothing, or everything up to a level. -/
inductive Limit where
  | off
  | upTo (level : Level)
  deriving DecidableEq, Repr

namespace Limit

def all : List Limit := .off :: Level.all.map .upTo

def rank : Limit → Nat
  | off => 0
  | upTo level => level.rank

def name : Limit → String
  | off => "off"
  | upTo .error => "error"
  | upTo .warn => "warn"
  | upTo .info => "info"
  | upTo .debug => "debug"
  | upTo .trace => "trace"

def allows (limit : Limit) (level : Level) : Bool := level.rank ≤ limit.rank

def max (left right : Limit) : Limit := if left.rank ≤ right.rank then right else left

/-- The greatest of some limits. -/
def greatest (limits : List Limit) : Limit := limits.foldl max off

end Limit

end WorkflowLaunch.Log
