import ApiCompiler.Proofs.Compile
import ApiCompiler.Proofs.Registry.Order

/-!
# Operations of a compiled document

Compilation goes through the operations of a document in order. Whatever it has compiled so far, the
next operation is either left out, because its path has no resource, or listed behind the others. So
the registry of a compiled document lists all of its operations, and every operation that has a
resource has a procedure in the router of this resource. The procedure is the route of the operation
up to its name, since a name that is taken gives way and nothing that has been added is taken away.
-/

namespace ApiCompiler.Compilation

open Document (Operation)

variable {document : Value} {overrides : Overrides} {known : List String}

/-- One operation is listed behind those before it. -/
theorem lists_of_addOperation {done : List Operation} {operation : Operation}
    {registry next : Registry} (hmethod : operation.method ∈ Document.httpMethods)
    (hlists : registry.Lists done)
    (h : (addOperation document overrides known registry operation).outcome = .ok next) :
    next.Lists (done ++ [operation]) := by
  rw [addOperation, Report.outcome_bind_eq_ok] at h
  obtain ⟨route?, hroute, h⟩ := h
  cases route? with
  | none =>
    rw [Report.outcome_pure, Except.ok.injEq] at h
    obtain ⟨path, hpath, hnone⟩ := Route.resource?_eq_none_of_ofOperation hroute
    rw [← h]
    refine hlists.skip ?_
    rw [Operation.resource?_of_path_eq hpath, hnone]
  | some route =>
    obtain ⟨hpath, hresource, hlower, _, _⟩ := Route.isNamedAfter_of_ofOperation hroute
    rw [Report.outcome_bind_eq_ok] at h
    obtain ⟨call, _, h⟩ := h
    rw [Report.outcome_bind_of_ok (Registry.outcome_add registry route (some call)),
      Report.outcome_pure, Except.ok.injEq] at h
    rw [← h]
    refine hlists.withRoute (some call) ?_ ?_
    · rw [Operation.resource?_of_path_eq hpath, hresource]
    · rw [Operation.place, hpath, hlower, Document.lower_of_mem_httpMethods hmethod]

theorem lists_of_addOperations {done rest : List Operation} {registry final : Registry}
    (hmethods : ∀ operation ∈ rest, operation.method ∈ Document.httpMethods)
    (hlists : registry.Lists done)
    (h : (addOperations document overrides known registry rest).outcome = .ok final) :
    final.Lists (done ++ rest) := by
  induction rest generalizing done registry with
  | nil =>
    cases h
    rwa [List.append_nil]
  | cons operation rest ih =>
    rw [addOperations, Report.outcome_bind_eq_ok] at h
    obtain ⟨next, hnext, h⟩ := h
    have hstep := lists_of_addOperation (hmethods operation (List.mem_cons_self ..)) hlists hnext
    rw [List.append_cons]
    exact ih (fun other hother ↦ hmethods other (List.mem_cons_of_mem operation hother)) hstep h

/-- The registry of a compiled document lists the operations of the document. -/
theorem lists_operations {compilation : Compilation}
    (h : (ofDocument document overrides).outcome = .ok compilation) :
    compilation.registry.Lists (Document.operations document) := by
  exact lists_of_addOperations (fun _ hoperation ↦ (Document.of_mem_operations hoperation).1)
    Registry.lists_nil (outcome_ofDocument_eq_ok_iff.mp h).2

end ApiCompiler.Compilation

namespace ApiCompiler

open Document (Operation)

/-- A registry with a procedure that is a route up to its name. -/
def Registry.HasProcedureFor (registry : Registry) (route : Route) : Prop :=
  ∃ p ∈ registry.proceduresOf route.resource, p.route = { route with name := p.route.name }

namespace Registry

variable {registry : Registry} {route other : Route}

theorem hasProcedureFor_withRoute (registry : Registry) (route : Route) (call : Option Call) :
    (registry.withRoute route call).HasProcedureFor route := by
  refine ⟨(registry.routerFor route.resource).procedureFor route call, ?_, rfl⟩
  rw [proceduresOf_withRoute, if_pos rfl]
  exact List.mem_append_right _ (List.mem_singleton_self _)

theorem HasProcedureFor.withRoute (h : registry.HasProcedureFor other) (route : Route)
    (call : Option Call) : (registry.withRoute route call).HasProcedureFor other := by
  obtain ⟨p, hp, heq⟩ := h
  refine ⟨p, ?_, heq⟩
  rw [proceduresOf_withRoute]
  split
  · exact List.mem_append_left _ hp
  · exact hp

end Registry

namespace Compilation

variable {document : Value} {overrides : Overrides} {known : List String}

/-- The route that a compilation reads off an operation. -/
def routeOf (document : Value) (known : List String) (operation : Operation) :
    Report (Option Route) :=
  Route.ofOperation document (some known) operation.method operation.path operation.node
    operation.item

/-- Adding an operation keeps the procedures, and adds the one of the operation. -/
theorem hasProcedureFor_of_addOperation {operation : Operation} {registry next : Registry}
    (h : (addOperation document overrides known registry operation).outcome = .ok next) :
    (∀ route, registry.HasProcedureFor route → next.HasProcedureFor route) ∧
      ∃ route?, (routeOf document known operation).outcome = .ok route? ∧
        ∀ route, route? = some route → next.HasProcedureFor route := by
  rw [addOperation, Report.outcome_bind_eq_ok] at h
  obtain ⟨route?, hroute, h⟩ := h
  cases route? with
  | none =>
    cases h
    refine ⟨fun _ hhas ↦ hhas, none, hroute, fun route heq ↦ ?_⟩
    cases heq
  | some route =>
    rw [Report.outcome_bind_eq_ok] at h
    obtain ⟨call, _, h⟩ := h
    rw [Report.outcome_bind_of_ok (Registry.outcome_add registry route (some call))] at h
    cases h
    refine ⟨fun _ hhas ↦ hhas.withRoute route (some call), some route, hroute, ?_⟩
    rintro _ ⟨rfl⟩
    exact Registry.hasProcedureFor_withRoute registry route (some call)

theorem hasProcedureFor_of_addOperations {operations : List Operation} {registry final : Registry}
    (h : (addOperations document overrides known registry operations).outcome = .ok final) :
    (∀ route, registry.HasProcedureFor route → final.HasProcedureFor route) ∧
      ∀ operation ∈ operations, ∃ route?, (routeOf document known operation).outcome = .ok route? ∧
        ∀ route, route? = some route → final.HasProcedureFor route := by
  induction operations generalizing registry with
  | nil =>
    cases h
    exact ⟨fun _ hhas ↦ hhas, by simp⟩
  | cons operation rest ih =>
    rw [addOperations, Report.outcome_bind_eq_ok] at h
    obtain ⟨next, hnext, h⟩ := h
    obtain ⟨hkept, route?, hroute, hadded⟩ := hasProcedureFor_of_addOperation hnext
    obtain ⟨hlater, hrest⟩ := ih h
    refine ⟨fun route hhas ↦ hlater route (hkept route hhas), fun other hother ↦ ?_⟩
    rcases List.mem_cons.mp hother with rfl | hother
    · exact ⟨route?, hroute, fun route heq ↦ hlater route (hadded route heq)⟩
    · exact hrest other hother

/-- Every operation with a resource has a procedure in the registry. -/
theorem exists_procedure_of_mem {compilation : Compilation}
    (h : (ofDocument document overrides).outcome = .ok compilation) {operation : Operation}
    (hoperation : operation ∈ Document.operations document) {resource : String}
    (hresource : operation.resource? = some resource) :
    ∃ route, (routeOf document (Named.names compilation.table) operation).outcome =
        .ok (some route) ∧
      ∃ p ∈ compilation.registry.proceduresOf resource,
        p.route = { route with name := p.route.name } := by
  obtain ⟨-, hregistry⟩ := outcome_ofDocument_eq_ok_iff.mp h
  obtain ⟨route?, hroute, hhas⟩ :=
    (hasProcedureFor_of_addOperations hregistry).2 operation hoperation
  cases route? with
  | none =>
    obtain ⟨path, hpath, hnone⟩ := Route.resource?_eq_none_of_ofOperation hroute
    rw [Operation.resource?_of_path_eq hpath, hnone] at hresource
    cases hresource
  | some route =>
    have hnamed := Route.isNamedAfter_of_ofOperation hroute
    rw [Operation.resource?_of_path_eq hnamed.path_eq, hnamed.resource?_eq,
      Option.some.injEq] at hresource
    subst hresource
    exact ⟨route, hroute, hhas route rfl⟩

end Compilation

end ApiCompiler
