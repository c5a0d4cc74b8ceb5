import WorkflowLaunch.Catalog.Encoding
import WorkflowLaunch.Http.Message

set_option autoImplicit false

/-!
The front end: three resources that can be read, answered from one catalog.
-/

namespace WorkflowLaunch.Http

inductive Resource where
  | health
  | namespaces
  | attributes
  deriving DecidableEq, Repr

namespace Resource

def all : List Resource := [.health, .namespaces, .attributes]

def path : Resource → String
  | health => "/health"
  | namespaces => "/api/v1/namespaces"
  | attributes => "/api/v1/search-attributes"

/-- The resource at a path. Paths are compared as they are written. -/
def ofPath? (path : List Char) : Option Resource := all.find? (·.path.toList = path)

def content (catalog : Catalog) : Resource → Json.Value
  | health => .object [("status", .string "ok")]
  | namespaces => catalog.namespacesJson
  | attributes => catalog.attributes.toJson

def body (catalog : Catalog) (resource : Resource) : String :=
  String.ofList (resource.content catalog).compact

end Resource

/-- The answer to a request. Reading the head of a resource gives the same headers and no body. A
target without a path from the root, such as an authority alone, leads nowhere. -/
def respond (catalog : Catalog) (request : Request) : Response :=
  let path := (Target.ofText request.target).path
  match Resource.ofPath? path with
  | none => ⟨404, if path.head? = some '/' then [] else [("content-length", "0")], ""⟩
  | some resource =>
    let body := resource.body catalog
    let headers := [("content-type", "application/json"),
      ("content-length", toString body.utf8ByteSize)]
    if request.method = "GET" then ⟨200, headers, body⟩
    else if request.method = "HEAD" then ⟨200, headers, ""⟩
    else ⟨405, [("allow", "GET,HEAD"), ("content-length", "0")], ""⟩

end WorkflowLaunch.Http
