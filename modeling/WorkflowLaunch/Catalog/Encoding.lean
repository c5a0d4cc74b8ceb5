import WorkflowLaunch.Catalog.Basic
import WorkflowLaunch.Json.Value

set_option autoImplicit false

/-!
The written form of a catalog: an object with the namespaces as a list and the attributes as an
object from names to type names, in name order.
-/

namespace WorkflowLaunch

open Attribute (Table)

def Attribute.Table.toJson (table : Table) : Json.Value :=
  .object (table.entries.map fun (name, type) => (name, .string type.name))

namespace Catalog

def namespacesKey : String := "namespaces"

def attributesKey : String := "search_attributes"

def namespacesJson (catalog : Catalog) : Json.Value := .array (catalog.namespaces.map .string)

def toJson (catalog : Catalog) : Json.Value :=
  .object [(namespacesKey, catalog.namespacesJson), (attributesKey, catalog.attributes.toJson)]

def encode (catalog : Catalog) : String := String.ofList catalog.toJson.compact

def encodePretty (catalog : Catalog) : String := String.ofList (catalog.toJson.pretty 0)

end Catalog

end WorkflowLaunch
