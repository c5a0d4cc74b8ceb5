import WorkflowLaunch.Attribute.Table

set_option autoImplicit false

/-!
Attribute names and type names given side by side. They are paired by position; the first name of
no type fails the whole declaration, and of several pairs with one name the last one counts.
-/

namespace WorkflowLaunch.Attribute

structure Declaration where
  names : List String
  types : List String
  deriving DecidableEq, Repr

inductive DeclarationFault where
  | unknownType (token : String)
  | lengthMismatch (names types : Nat)
  deriving DecidableEq, Repr

def DeclarationFault.message : DeclarationFault → String
  | unknownType token => s!"the type: {token} is not a valid type for a search attribute"
  | lengthMismatch names types => s!"got {names} search attribute keys but {types} types"

def typeNamed (token : String) : Except DeclarationFault ValueType :=
  match ValueType.ofName? token with
  | some type => .ok type
  | none => .error (.unknownType token)

/-- Enters pairs of a name and a type name from left to right. -/
def declare (table : Table) : List (String × String) → Except DeclarationFault Table
  | [] => .ok table
  | (name, token) :: rest => do
    let type ← typeNamed token
    declare (table.insert name type) rest

def Declaration.resolve (declaration : Declaration) : Except DeclarationFault Table :=
  if declaration.names.length = declaration.types.length then
    declare ∅ (declaration.names.zip declaration.types)
  else .error (.lengthMismatch declaration.names.length declaration.types.length)

end WorkflowLaunch.Attribute
