import WorkflowLaunch.Request.Standard

set_option autoImplicit false

/-!
What the user asks for, before any check: the words of the command line that belong to no flag and
the value of every flag, with a mark on those that were given.
-/

namespace WorkflowLaunch

structure Flag (α : Type) where
  value : α
  explicit : Bool
  deriving DecidableEq

namespace Flag

variable {α : Type}

def given (value : α) : Flag α := ⟨value, true⟩

def absent (value : α) : Flag α := ⟨value, false⟩

/-- The given value, or else the standard one. -/
def resolve (given? : Option α) (standard : α) : Flag α :=
  match given? with
  | some value => given value
  | none => absent standard

end Flag

structure Request where
  words : List String
  ephemeral : Flag Bool
  filename : Flag Path
  port : Flag UInt16
  ip : Flag String
  logFormat : Flag String
  namespaces : Flag (List String)
  attributeNames : Flag (List String)
  attributeTypes : Flag (List String)
  deriving DecidableEq

/-- The request that gives nothing. -/
def Request.standard (standard : Standard) : Request where
  words := []
  ephemeral := .absent standard.ephemeral
  filename := .absent standard.databaseFile
  port := .absent standard.port
  ip := .absent standard.ip
  logFormat := .absent standard.logFormat
  namespaces := .absent []
  attributeNames := .absent []
  attributeTypes := .absent []

end WorkflowLaunch
