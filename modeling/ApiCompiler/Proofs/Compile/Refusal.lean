import ApiCompiler.Document.Sample
import ApiCompiler.Proofs.Compile.Procedure
import ApiCompiler.Proofs.Route.Call
import ApiCompiler.Proofs.Route.Readable

/-!
# Documents that are refused

A document whose paths are texts, whose parameters are located by texts and whose parts all resolve
can be refused for one reason only: an operation has the name of a built-in override, and the
override does not fit it. The compilation then fails with the first such operation; without one it
succeeds, whatever the references, the names and the bodies of the document are.
-/

namespace ApiCompiler

namespace Document

/-- How the built-in overrides refuse an operation of a document: one that has a resource, under its
own or its derived name, with the templates of its path and the JSON body that it states. -/
def Operation.misfit? (document : Value) (operation : Operation) : Option Failure :=
  operation.path.text?.bind fun path ↦
    if (PathTemplate.resource? path).isSome then
      let body := followed document ((operation.node.get? "requestBody").getD .null)
      Call.misfit? (Route.nameOf operation.method path operation.node) (PathTemplate.params path)
        (Route.jsonSchema? body).isSome
    else none

/-- A document without what stops a compilation by itself: paths that are no texts, parameters that
are not located by a text, values without end, keys that cannot be written and patterns refused for
more than their syntax. -/
structure IsOrderly (document : Value) : Prop where
  path_isText : ∀ operation ∈ operations document, operation.path.text?.isSome = true
  isLocated : ∀ operation ∈ operations document, ∀ p ∈ Route.declared document
    (Route.parameterList operation.item ++ Route.parameterList operation.node), p.isLocated = true
  isResolvable : Schema.IsResolvable document

variable {document : Value} {operation : Operation}

theorem IsOrderly.isResolvable_of_mem (h : IsOrderly document)
    (hoperation : operation ∈ operations document) :
    Schema.IsResolvable (.map operation.item) ∧ Schema.IsResolvable (.map operation.node) :=
  have hparts := parts_subset_of_mem_operations hoperation
  ⟨h.isResolvable.of_subset hparts.1, h.isResolvable.of_subset hparts.2⟩

/-- The route of an operation meets the built-in overrides as the operation does. -/
theorem misfit?_of_ofOperation {known : Option (List String)} {route : Route}
    (hoperation : operation ∈ operations document)
    (h : (Route.ofOperation document known operation.method operation.path operation.node
      operation.item).outcome = .ok (some route)) :
    Call.misfit? route.operation route.pathParams.names route.body.isSome =
      operation.misfit? document := by
  obtain ⟨⟨hpath, _, container, hcontainer, hbody⟩, hwellFormed⟩ := Route.keeps_of_ofOperation h
  obtain ⟨_, hresource, hmethod, hname, hoperationName⟩ := Route.isNamedAfter_of_ofOperation h
  rw [lower_of_mem_httpMethods (of_mem_operations hoperation).1] at hmethod
  rw [outcome_deref, Except.ok.injEq] at hcontainer
  rw [Operation.misfit?, hpath, hoperationName, hname, hmethod, hwellFormed.pathParams_names, hbody,
    ← hcontainer]
  simp [Value.text?, hresource]

/-- An operation without a resource meets no override. -/
theorem misfit?_eq_none {path : String} (hpath : operation.path = .text path)
    (h : PathTemplate.resource? path = none) : operation.misfit? document = none := by
  rw [Operation.misfit?, hpath]
  simp [Value.text?, h]

end Document

namespace Compilation

open Document (IsOrderly Operation)
open Document.Sample (object)

variable {document : Value}

/-- One operation is refused exactly as the built-in overrides refuse it. -/
theorem failure?_addOperation (h : IsOrderly document) {operation : Operation}
    (hoperation : operation ∈ Document.operations document) (known : List String)
    (registry : Registry) :
    (addOperation document [] known registry operation).failure? = operation.misfit? document := by
  obtain ⟨hitem, hnode⟩ := h.isResolvable_of_mem hoperation
  have hpath := h.path_isText operation hoperation
  have hread : (Route.ofOperation document (some known) operation.method operation.path
      operation.node operation.item).failure? = none := by
    cases hvalue : operation.path with
    | text path =>
      exact Route.failure?_ofOperation h.isResolvable hitem hnode (h.isLocated operation hoperation)
        operation.method path
    | _ => simp [hvalue, Value.text?] at hpath
  obtain ⟨route?, hroute⟩ := Report.failure?_eq_none_iff.mp hread
  rw [addOperation, Report.failure?_bind_of_ok hroute]
  cases route? with
  | none =>
    obtain ⟨path, htext, hnone⟩ := Route.resource?_eq_none_of_ofOperation hroute
    rw [Document.misfit?_eq_none htext hnone]
    rfl
  | some route =>
    have hadd (call : Call) : (registry.add route (some call)).failure? = none :=
      Report.failure?_eq_none_of_ok (Registry.outcome_add registry route (some call))
    calc
      _ = (Call.bind [] route).failure? :=
        Report.failure?_bind_of_forall _ fun call ↦
          Report.failure?_bind_eq_none (hadd call) fun _ _ ↦ rfl
      _ = (Call.argumentsOf [] route).failure? := Report.failure?_bind_of_forall _ fun _ ↦ rfl
      _ = Call.misfit? route.operation route.pathParams.names route.body.isSome :=
        Call.failure?_argumentsOf_nil route
      _ = operation.misfit? document := Document.misfit?_of_ofOperation hoperation hroute

theorem failure?_addOperations (h : IsOrderly document) {rest : List Operation}
    (hrest : rest ⊆ Document.operations document) (known : List String) (registry : Registry) :
    (addOperations document [] known registry rest).failure? =
      rest.findSome? (Operation.misfit? document) := by
  induction rest generalizing registry with
  | nil => rfl
  | cons operation rest ih =>
    have hstep := failure?_addOperation h (hrest (List.mem_cons_self ..)) known registry
    rw [addOperations, List.findSome?_cons]
    cases hmisfit : operation.misfit? document with
    | some failure => exact Report.failure?_bind_of_some (hstep.trans hmisfit) _
    | none =>
      obtain ⟨next, hnext⟩ := Report.failure?_eq_none_iff.mp (hstep.trans hmisfit)
      rw [Report.failure?_bind_of_ok hnext]
      exact ih (List.subset_of_cons_subset hrest) next

theorem failure?_ofDocument (h : IsOrderly document) :
    (ofDocument document []).failure? =
      (Document.operations document).findSome? (Operation.misfit? document) := by
  obtain ⟨table, htable⟩ :=
    Report.failure?_eq_none_iff.mp (SchemaTable.failure?_ofDocument h.isResolvable)
  rw [ofDocument, Report.failure?_bind_of_ok htable]
  calc
    _ = (addOperations document [] (Named.names table) []
          (Document.operations document)).failure? :=
      Report.failure?_bind_of_forall _ fun _ ↦ rfl
    _ = (Document.operations document).findSome? (Operation.misfit? document) :=
      failure?_addOperations h (List.Subset.refl _) _ []

/-- An orderly document compiles without overrides of the caller exactly when every operation fits
the built-in overrides, and otherwise fails as the first operation that does not fit is refused. -/
theorem compiles_iff_forall_misfit?_eq_none (h : IsOrderly document) :
    ((∃ compilation, (ofDocument document []).outcome = .ok compilation) ↔
        ∀ operation ∈ Document.operations document, operation.misfit? document = none) ∧
      ∀ failure, (ofDocument document []).outcome = .error failure ↔
        (Document.operations document).findSome? (Operation.misfit? document) = some failure := by
  constructor
  · rw [← Report.failure?_eq_none_iff, failure?_ofDocument h, List.findSome?_eq_none_iff]
  · intro failure
    rw [← Report.failure?_eq_some_iff, failure?_ofDocument h]

/-- A document with references that lead nowhere or in a circle, with parameters that are none, with
two operations of one name, and with a listing that has a body. -/
def roughDocument : Value :=
  object [
    ("paths", object [
      ("/r/list", object [
        ("post", object [
          ("requestBody", object [("content", Document.jsonContent (object []))])])]),
      ("/r/\x7ba\x7d", object [
        ("parameters", .list [.int 7, object [("$ref", .text "#/nowhere")]]),
        ("get", object [("operationId", .text "class"),
          ("responses", object [("200", object [("$ref", .text "#/paths/~1r~1\x7ba\x7d/put")])])]),
        ("put", object [
          ("$ref", .text "#/paths/~1r~1\x7ba\x7d/put"), ("requestBody", .text "none")])]),
      ("/r/\x7ba\x7d/b", object [("get", object [("operationId", .text "class")])])])]

/-- A document with a listing that has no body. -/
def bodilessDocument : Value :=
  object [("paths", object [("/r/list", object [("post", object [])])])]

theorem roughDocument_compiles :
    IsOrderly roughDocument ∧
      ∃ compilation, (ofDocument roughDocument []).outcome = .ok compilation := by
  have h : IsOrderly roughDocument :=
    ⟨by decide +kernel, by decide +kernel, by decide +kernel⟩
  exact ⟨h, (compiles_iff_forall_misfit?_eq_none h).1.mpr (by decide +kernel)⟩

/-- A document with a component for which resolution does not settle. -/
def componentDocument (component : Value) : Value :=
  object [("components", object [("schemas", object [("A", component)])])]

/-- A string with a pattern that asks for two kinds of matching at once. -/
def contradictoryString : Value :=
  object [("type", .text "string"), ("pattern", .text "(?a)(?u)x")]

theorem bodilessDocument_refused :
    (IsOrderly bodilessDocument ∧ (ofDocument bodilessDocument []).failure?.map Failure.message =
      some "Invalid call override for listCreate: \x7b'kind': 'body', 'key': 'data'\x7d") ∧
    (ofDocument (componentDocument contradictoryString) []).failure?.map Failure.message =
      some "ASCII and UNICODE flags are incompatible" ∧
    (ofDocument (componentDocument .endless) []).failure?.map Failure.message =
      some "maximum recursion depth exceeded" := by
  refine ⟨⟨⟨?_, ?_, ?_⟩, ?_⟩, ?_, ?_⟩ <;> decide +kernel

end Compilation

end ApiCompiler
