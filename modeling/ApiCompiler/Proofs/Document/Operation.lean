import ApiCompiler.Document.Operation
import ApiCompiler.PathTemplate
import ApiCompiler.Proofs.Document.Reference
import ApiCompiler.Text.Case

/-!
# Operations by resource

An operation belongs to the resource that its path names first; one whose path names none has no
part in the compilation. Methods of operations are written in lower case.
-/

namespace ApiCompiler.Document

namespace Operation

/-- The resource of an operation, if its path has one. -/
def resource? (operation : Operation) : Option String :=
  operation.path.text?.bind PathTemplate.resource?

/-- The method and the path by which a document states an operation. -/
def place (operation : Operation) : String × Value :=
  (operation.method, operation.path)

theorem resource?_of_path_eq {operation : Operation} {path : String}
    (h : operation.path = .text path) : operation.resource? = PathTemplate.resource? path := by
  rw [resource?, h]
  rfl

end Operation

/-- The operations of a resource, in order. -/
def operationsOf (operations : List Operation) (resource : String) : List Operation :=
  operations.filter fun operation ↦ operation.resource? == some resource

theorem operationsOf_concat (operations : List Operation) (operation : Operation)
    (resource : String) :
    operationsOf (operations ++ [operation]) resource =
      operationsOf operations resource ++
        if operation.resource? = some resource then [operation] else [] := by
  rw [operationsOf, operationsOf, List.filter_append, List.filter_cons, List.filter_nil]
  by_cases h : operation.resource? = some resource <;> simp [h]

/-- An operation stands under its method in its path item, and that under its path. -/
theorem of_mem_operations {document : Value} {operation : Operation}
    (h : operation ∈ operations document) :
    operation.method ∈ httpMethods ∧ (operation.path, .map operation.item) ∈ paths document ∧
      (.text operation.method, .map operation.node) ∈ operation.item := by
  obtain ⟨⟨path, item⟩, hitem, hoperation⟩ := List.mem_flatMap.mp h
  cases item with
  | map entries =>
    obtain ⟨⟨key, node⟩, hentry, hoperation⟩ := List.mem_filterMap.mp hoperation
    unfold operationOf at hoperation
    split at hoperation
    · next heq =>
      cases heq
      split at hoperation
      · next hmethod =>
        cases hoperation
        exact ⟨List.contains_iff_mem.mp hmethod, hitem, hentry⟩
      · cases hoperation
    · cases hoperation
  | _ => simp [operationsOfItem] at hoperation

/-- An operation and its path item are parts of their document. -/
theorem parts_subset_of_mem_operations {document : Value} {operation : Operation}
    (h : operation ∈ operations document) :
    (Value.map operation.item).parts ⊆ document.parts ∧
      (Value.map operation.node).parts ⊆ document.parts := by
  obtain ⟨_, hitem, hnode⟩ := of_mem_operations h
  have hpaths : (Value.map operation.item).parts ⊆ document.parts := by
    unfold paths at hitem
    split at hitem
    · next entries hentries =>
      exact List.Subset.trans (Value.parts_subset_of_mem_entries hitem)
        (Value.parts_subset_of_get? hentries)
    · simp at hitem
  exact ⟨hpaths, List.Subset.trans (Value.parts_subset_of_mem_entries hnode) hpaths⟩

theorem lower_of_mem_httpMethods {method : String} (h : method ∈ httpMethods) :
    String.ofList (Text.lower method.toList) = method := by
  have hall : ∀ method ∈ httpMethods, String.ofList (Text.lower method.toList) = method := by
    decide
  exact hall method h

end ApiCompiler.Document
