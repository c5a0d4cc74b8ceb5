import WorkflowLaunch.Attribute.Table

set_option autoImplicit false

/-!
What a server keeps: its namespaces in the order of their creation and the types of its search
attributes. Both only grow, and an attribute never changes its type.
-/

namespace WorkflowLaunch

open Attribute (ValueType Table)

structure Catalog where
  namespaces : List String
  attributes : Table
  deriving DecidableEq

/-- An attribute that is held with a type other than the requested one. -/
structure AttributeConflict where
  name : String
  held : ValueType
  requested : ValueType
  deriving DecidableEq, Repr

def AttributeConflict.message (conflict : AttributeConflict) : String :=
  s!"search attribute {conflict.name} is already registered as {conflict.held.name}, " ++
    s!"cannot register it as {conflict.requested.name}"

namespace Catalog

def empty : Catalog := ⟨[], ∅⟩

instance : EmptyCollection Catalog := ⟨empty⟩

instance : Inhabited Catalog := ⟨empty⟩

/-- Adds a namespace at the end. Also tells whether it is new. -/
def createNamespace (catalog : Catalog) (name : String) : Bool × Catalog :=
  if name ∈ catalog.namespaces then (false, catalog)
  else (true, { catalog with namespaces := catalog.namespaces ++ [name] })

/-- Adds an attribute. Also tells whether it is new. -/
def register (catalog : Catalog) (name : String) (type : ValueType) :
    Except AttributeConflict (Bool × Catalog) :=
  match catalog.attributes.get? name with
  | none => .ok (true, { catalog with attributes := catalog.attributes.insert name type })
  | some held =>
    if held = type then .ok (false, catalog) else .error ⟨name, held, type⟩

end Catalog

end WorkflowLaunch
