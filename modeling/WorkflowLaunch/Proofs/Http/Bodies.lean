import WorkflowLaunch.Http.Frontend
import WorkflowLaunch.Proofs.Catalog.Codec

set_option autoImplicit false

/-!
What the bodies of answers stand for. They are written without blanks, and the readers of a saved
catalog read them back as well.
-/

namespace WorkflowLaunch.Http

open Json

variable {catalog : Catalog} {request : Request} {resource : Resource}

/-- No two resources have the same path. -/
theorem Resource.ofPath?_path (resource : Resource) :
    Resource.ofPath? resource.path.toList = some resource := by
  cases resource <;> decide

theorem respond_get (catalog : Catalog) (get : request.method = "GET")
    (names : (Target.ofText request.target).path = resource.path.toList) :
    (respond catalog request).status = 200 ∧
      (respond catalog request).body = resource.body catalog := by
  simp [respond, names, Resource.ofPath?_path, get]

/-- The list of namespaces, and nothing behind it. -/
theorem readNamespaces_body (catalog : Catalog) :
    Catalog.readNamespaces (Resource.namespaces.body catalog).toList =
      .ok (catalog.namespaces, []) := by
  have read := Catalog.readNamespaces_written blank_nil blank_nil blank_nil catalog.namespaces []
  have layout : catalog.namespacesJson.compact =
      Catalog.namespacesText [] [] [] catalog.namespaces := by
    simp only [Catalog.namespacesJson, Value.compact_array, Value.compact_string, List.map_map,
      Function.comp_def, Catalog.namespacesText, List.nil_append, List.append_assoc]
  rw [List.append_nil, ← layout] at read
  rw [Resource.body, String.toList_ofList]
  exact read

/-- The map of attributes, and nothing behind it. -/
theorem readAttributes_body (catalog : Catalog) :
    Catalog.readAttributes (Resource.attributes.body catalog).toList =
      .ok (catalog.attributes, []) := by
  have read := Catalog.readAttributes_written blank_nil blank_nil blank_nil catalog.attributes []
  have layout : catalog.attributes.toJson.compact =
      Catalog.attributesText [] [] [] catalog.attributes.entries := by
    simp only [Attribute.Table.toJson, Value.compact_object, Value.compact_string, List.map_map,
      Function.comp_def, Catalog.attributesText, Catalog.attributeMember, memberText,
      List.nil_append, List.append_assoc]
  rw [List.append_nil, ← layout] at read
  rw [Resource.body, String.toList_ofList]
  exact read

/-- What a client reads out of an answer to a request. -/
structure Shows (catalog : Catalog) (request : Request) (response : Response) : Prop where
  namespaces : (Target.ofText request.target).path = Resource.namespaces.path.toList →
    response.status = 200 ∧
      Catalog.readNamespaces response.body.toList = .ok (catalog.namespaces, [])
  attributes : (Target.ofText request.target).path = Resource.attributes.path.toList →
    response.status = 200 ∧
      Catalog.readAttributes response.body.toList = .ok (catalog.attributes, [])

theorem shows_respond (catalog : Catalog) (get : request.method = "GET") :
    Shows catalog request (respond catalog request) := by
  constructor
  · intro names
    obtain ⟨status, body⟩ := respond_get catalog get names
    rw [body]
    exact ⟨status, readNamespaces_body catalog⟩
  · intro names
    obtain ⟨status, body⟩ := respond_get catalog get names
    rw [body]
    exact ⟨status, readAttributes_body catalog⟩

end WorkflowLaunch.Http
