import ApiCompiler.Compile
import ApiCompiler.Proofs.Registry.Consistency
import ApiCompiler.Proofs.Route
import ApiCompiler.Proofs.Route.Call

/-!
# Compiled documents

A document compiles by one run over the registry, whose steps are routes of the document with the
calls that the overrides bind to them. What the runs of the registry keep therefore holds of every
compiled document, and every procedure is a route of the document under another name.
-/

namespace ApiCompiler

variable {document : Value} {overrides : Overrides}

/-- A step of a compilation: a route of the document with the call bound to it. -/
def Compilation.IsStep (document : Value) (overrides : Overrides) (step : Route × Option Call) :
    Prop :=
  ∃ operation ∈ Document.operations document, ∃ known call,
    (Route.ofOperation document known operation.method operation.path operation.node
      operation.item).outcome = .ok (some step.1) ∧
    (Call.bind overrides step.1).outcome = .ok call ∧ step.2 = some call

/-- A procedure that stands for an operation of the document and has a call bound to it. -/
structure Procedure.IsCompiled (document : Value) (overrides : Overrides) (p : Procedure) :
    Prop where
  exists_operation : ∃ operation ∈ Document.operations document,
    p.route.Keeps document operation.path operation.node operation.item
  isWellFormed : p.route.IsWellFormed
  exists_call : ∃ call, p.call = some call ∧
    (Call.argumentsOf overrides p.route).outcome = .ok call.arguments

namespace Compilation

/-! ## The run over the registry -/

/-- What every route of the operations has together with its call, every step of the run has. -/
theorem exists_addAll_of_addOperations {P : Route × Option Call → Prop} {known : List String}
    {operations : List Document.Operation} {registry final : Registry}
    (hP : ∀ operation ∈ operations, ∀ route call,
      (Route.ofOperation document (some known) operation.method operation.path operation.node
        operation.item).outcome = .ok (some route) →
      (Call.bind overrides route).outcome = .ok call → P (route, some call))
    (h : (addOperations document overrides known registry operations).outcome = .ok final) :
    ∃ steps, (registry.addAll steps).outcome = .ok final ∧ ∀ step ∈ steps, P step := by
  induction operations generalizing registry with
  | nil => exact ⟨[], h, by simp⟩
  | cons operation rest ih =>
    rw [addOperations, Report.outcome_bind_eq_ok] at h
    obtain ⟨next, hnext, h⟩ := h
    obtain ⟨steps, hsteps, hforall⟩ :=
      ih (fun other hother ↦ hP other (List.mem_cons_of_mem _ hother)) h
    rw [addOperation, Report.outcome_bind_eq_ok] at hnext
    obtain ⟨route?, hroute, hnext⟩ := hnext
    cases route? with
    | none =>
      rw [Report.outcome_pure, Except.ok.injEq] at hnext
      exact ⟨steps, hnext ▸ hsteps, hforall⟩
    | some route =>
      rw [Report.outcome_bind_eq_ok] at hnext
      obtain ⟨call, hcall, hnext⟩ := hnext
      rw [Report.outcome_bind_eq_ok] at hnext
      obtain ⟨⟨added, placed⟩, hadded, hnext⟩ := hnext
      rw [Report.outcome_pure, Except.ok.injEq] at hnext
      refine ⟨(route, some call) :: steps, ?_, ?_⟩
      · rw [Registry.addAll, Report.outcome_bind_of_ok hadded, hnext]
        exact hsteps
      · intro step hstep
        rcases List.mem_cons.mp hstep with rfl | hstep
        · exact hP operation (List.mem_cons_self ..) route call hroute hcall
        · exact hforall step hstep

/-- A document compiles when its components make a table and its operations a registry. -/
theorem outcome_ofDocument_eq_ok_iff {compilation : Compilation} :
    (ofDocument document overrides).outcome = .ok compilation ↔
      (SchemaTable.ofDocument document).outcome = .ok compilation.table ∧
        (addOperations document overrides (Named.names compilation.table) []
          (Document.operations document)).outcome = .ok compilation.registry := by
  rw [ofDocument, Report.outcome_bind_eq_ok]
  constructor
  · rintro ⟨table, htable, h⟩
    simp only [Report.outcome_bind_eq_ok] at h
    obtain ⟨registry, hregistry, _, _, h⟩ := h
    cases h
    exact ⟨htable, hregistry⟩
  · rintro ⟨htable, hregistry⟩
    refine ⟨compilation.table, htable, ?_⟩
    rw [Report.outcome_bind_of_ok hregistry]
    rfl

/-- A compiled document is a run from the empty registry, in which references are known by the names
of its table. -/
theorem exists_addAll_of_forall {P : Route × Option Call → Prop} {compilation : Compilation}
    (hP : ∀ operation ∈ Document.operations document, ∀ route call,
      (Route.ofOperation document (some (Named.names compilation.table)) operation.method
        operation.path operation.node operation.item).outcome = .ok (some route) →
      (Call.bind overrides route).outcome = .ok call → P (route, some call))
    (h : (ofDocument document overrides).outcome = .ok compilation) :
    ∃ steps, (Registry.addAll [] steps).outcome = .ok compilation.registry ∧
      ∀ step ∈ steps, P step := by
  exact exists_addAll_of_addOperations hP (outcome_ofDocument_eq_ok_iff.mp h).2

theorem exists_addAll {compilation : Compilation}
    (h : (ofDocument document overrides).outcome = .ok compilation) :
    ∃ steps, (Registry.addAll [] steps).outcome = .ok compilation.registry ∧
      ∀ step ∈ steps, IsStep document overrides step :=
  exists_addAll_of_forall (fun operation hoperation _ call hroute hcall ↦
    ⟨operation, hoperation, _, call, hroute, hcall, rfl⟩) h

/-! ## Procedures -/

theorem IsStep.isCompiled_procedureFor {step : Route × Option Call}
    (h : IsStep document overrides step) (router : Router) :
    (router.procedureFor step.1 step.2).IsCompiled document overrides := by
  obtain ⟨operation, hoperation, known, call, hroute, hcall, hbound⟩ := h
  obtain ⟨hkeeps, hwellFormed⟩ := Route.keeps_of_ofOperation hroute
  -- the procedure differs from the route in the name only, and neither property reads the name
  constructor
  · exact ⟨operation, hoperation,
      ⟨hkeeps.path_eq, hkeeps.queryParams_names, hkeeps.body_isSome⟩⟩
  · exact ⟨hwellFormed.pathParams_names, hwellFormed.queryParams_nodup,
      hwellFormed.bodyKey_not_path, hwellFormed.bodyKey_not_query⟩
  · have harguments := Call.outcome_argumentsOf_of_bind hcall
    rw [Router.procedureFor, hbound]
    refine ⟨_, rfl, ?_⟩
    rw [Call.argumentsOf_withName]
    exact harguments

/-- Every procedure of a compiled document stands for an operation of the document. -/
theorem isCompiled_of_mem {compilation : Compilation}
    (h : (ofDocument document overrides).outcome = .ok compilation) {router : Router}
    (hrouter : router ∈ compilation.registry) {p : Procedure} (hp : p ∈ router.procedures) :
    p.IsCompiled document overrides := by
  obtain ⟨steps, hsteps, hforall⟩ := exists_addAll h
  refine Registry.forall_router_of_addAll
    (P := fun router ↦ ∀ p ∈ router.procedures, p.IsCompiled document overrides)
    ?_ ?_ (by simp) hsteps router hrouter p hp
  · simp [Registry.newRouter]
  · intro router hprocedures step hstep p hp
    rcases List.mem_append.mp hp with hp | hp
    · exact hprocedures p hp
    · rw [List.mem_singleton.mp hp]
      exact (hforall step hstep).isCompiled_procedureFor router

theorem hasInputs_of_mem {compilation : Compilation}
    (h : (ofDocument document overrides).outcome = .ok compilation) {router : Router}
    (hrouter : router ∈ compilation.registry) : router.HasInputs := by
  obtain ⟨steps, hsteps, _⟩ := exists_addAll h
  exact Registry.hasInputs_of_addAll hsteps router hrouter

theorem isSnakeChar_of_mem_nspace {compilation : Compilation}
    (h : (ofDocument document overrides).outcome = .ok compilation) {router : Router}
    (hrouter : router ∈ compilation.registry) :
    ∀ c ∈ router.nspace.toList, Naming.IsSnakeChar c := by
  obtain ⟨steps, hsteps, _⟩ := exists_addAll h
  exact Registry.forall_router_of_addAll
    (P := fun router ↦ ∀ c ∈ router.nspace.toList, Naming.IsSnakeChar c)
    Registry.isSnakeChar_of_mem_newRouter_nspace (fun _ hnspace _ _ ↦ hnspace) (by simp) hsteps
    router hrouter

theorem isConsistent_registry {compilation : Compilation}
    (h : (ofDocument document overrides).outcome = .ok compilation) :
    compilation.registry.IsConsistent := by
  obtain ⟨steps, hsteps, _⟩ := exists_addAll h
  obtain ⟨final, hfinal, hconsistent⟩ := Registry.isConsistent_nil.addAll steps
  cases hfinal.symm.trans hsteps
  exact hconsistent

end Compilation

end ApiCompiler
