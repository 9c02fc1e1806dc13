import ApiCompiler.Document.Sample
import ApiCompiler.Proofs.Compile.Procedure
import ApiCompiler.Proofs.Package.Context

/-!
# Operations of a package

Every operation of a document whose path has a resource is compiled to one procedure, in document
order, and written as one function of a router module and one method of the client. No other
operation is, and nothing is written twice.
-/

namespace ApiCompiler.Package

open Document (Operation)
open Document.Sample (object)

/-! ## What stands for a procedure -/

/-- A written function that stands for a procedure. -/
structure Endpoint.IsOf (p : Procedure) (e : Endpoint) : Prop where
  name_eq : e.name = p.route.name
  function_eq : e.function = p.function
  method_eq : e.method = p.route.method
  path_eq : e.path = p.route.path

/-- A client method that stands for a procedure. -/
structure ClientMethod.IsOf (p : Procedure) (m : ClientMethod) : Prop where
  function_eq : m.function = p.function
  httpMethod_eq : m.httpMethod = Route.upperMethod p.route.method
  path_eq : m.path = p.route.path

/-- A router module with one function and one client method for each procedure of a router, in
order. -/
structure RouterContext.IsOf (router : Router) (rendered : RouterContext) : Prop where
  name_eq : rendered.name = router.name
  nspace_eq : rendered.nspace = router.nspace
  endpoints : List.Forall₂ Endpoint.IsOf router.procedures rendered.endpoints
  methods : List.Forall₂ ClientMethod.IsOf router.procedures rendered.methods

variable {components : ComponentNames} {inputs : Named String} {scope final : ModelScope}

theorem isOf_of_endpointOf {response : TypeExpr} {p : Procedure}
    {rendered : Endpoint × ClientMethod}
    (h : (endpointOf scope inputs response p).outcome = .ok rendered) :
    rendered.1.IsOf p ∧ rendered.2.IsOf p := by
  rw [endpointOf, Report.outcome_bind_eq_ok] at h
  obtain ⟨_, _, h⟩ := h
  split at h
  all_goals
    simp only [Report.outcome_bind_eq_ok] at h
    obtain ⟨_, _, _, _, h⟩ := h
    cases h
    exact ⟨⟨rfl, rfl, rfl, rfl⟩, ⟨rfl, rfl, rfl⟩⟩

theorem forall₂_isOf_of_endpointsOf {procedures : List Procedure}
    {rendered : List (Endpoint × ClientMethod)}
    (h : (endpointsOf components inputs procedures scope).outcome = .ok (rendered, final)) :
    List.Forall₂ Endpoint.IsOf procedures (rendered.map Prod.fst) ∧
      List.Forall₂ ClientMethod.IsOf procedures (rendered.map Prod.snd) := by
  obtain ⟨-, hforall⟩ := forall₂_of_endpointsOf h
  constructor
  · refine List.forall₂_map_right_iff.mpr (hforall.imp fun p pair hpair ↦ ?_)
    obtain ⟨_, _, hpair⟩ := hpair
    exact (isOf_of_endpointOf hpair).1
  · refine List.forall₂_map_right_iff.mpr (hforall.imp fun p pair hpair ↦ ?_)
    obtain ⟨_, _, hpair⟩ := hpair
    exact (isOf_of_endpointOf hpair).2

theorem isOf_of_routerContext {names : Named String} {router : Router} {rendered : RouterContext}
    (h : (routerContext names router).outcome = .ok rendered) : rendered.IsOf router := by
  rw [routerContext_eq, Report.outcome_bind_eq_ok] at h
  obtain ⟨⟨endpoints, _⟩, hendpoints, h⟩ := h
  cases h
  obtain ⟨hforall, hmethods⟩ := forall₂_isOf_of_endpointsOf hendpoints
  exact ⟨rfl, rfl, hforall, hmethods⟩

theorem forall₂_routerContext_of_routerContexts {names : Named String} {routers : List Router}
    {rendered : List RouterContext}
    (h : (routerContexts names routers).outcome = .ok rendered) :
    List.Forall₂ (fun router context ↦ (routerContext names router).outcome = .ok context) routers
      rendered := by
  induction routers generalizing rendered with
  | nil =>
    cases h
    exact .nil
  | cons router rest ih =>
    simp only [routerContexts, Report.outcome_bind_eq_ok] at h
    obtain ⟨first, hfirst, others, hothers, h⟩ := h
    cases h
    exact .cons hfirst (ih hothers)

/-- Every router of a context is written for its router by itself. -/
theorem forall₂_routerContext_of_contextOf {compilation : Compilation}
    {apiName sourceUrl title : String} {context : Context}
    (h : (contextOf compilation apiName sourceUrl title).outcome = .ok context) :
    List.Forall₂ (fun router rendered ↦
        (routerContext (classNames (Named.names compilation.table)) router).outcome = .ok rendered)
      compilation.registry context.routers := by
  obtain ⟨-, routers, hrouters, rfl⟩ := exists_routerContexts_of_contextOf h
  exact forall₂_routerContext_of_routerContexts hrouters

theorem forall₂_isOf_of_contextOf {compilation : Compilation} {apiName sourceUrl title : String}
    {context : Context}
    (h : (contextOf compilation apiName sourceUrl title).outcome = .ok context) :
    List.Forall₂ RouterContext.IsOf compilation.registry context.routers :=
  (forall₂_routerContext_of_contextOf h).imp fun _ _ hrendered ↦ isOf_of_routerContext hrendered

/-! ## Operations -/

theorem procedureCount_eq_routeCount {registry : Registry} {context : Context}
    (h : List.Forall₂ RouterContext.IsOf registry context.routers) :
    context.procedureCount = registry.routeCount := by
  have hlength {routers : List Router} {rendered : List RouterContext}
      (h : List.Forall₂ RouterContext.IsOf routers rendered) :
      (rendered.flatMap RouterContext.endpoints).length =
        (routers.flatMap Router.procedures).length := by
    induction h with
    | nil => rfl
    | cons hfirst _ ih =>
      rw [List.flatMap_cons, List.flatMap_cons, List.length_append, List.length_append, ih,
        hfirst.endpoints.length_eq]
  exact hlength h

/-- The operations of a compiled document: each router has the operations of its resource in
document order, routers are in the order of the first operation of their resource, and exactly the
operations whose path has a resource are there. A package has one function and one client method for
each of them, in this order. -/
theorem operations_of_ofDocument {document : Value} {overrides : Overrides}
    {compilation : Compilation}
    (h : (Compilation.ofDocument document overrides).outcome = .ok compilation) :
    (∀ router ∈ compilation.registry, router.procedures.map Procedure.place =
      (Document.operationsOf (Document.operations document) router.name).map Operation.place) ∧
    compilation.registry.map Router.name =
      ((Document.operations document).filterMap Operation.resource?).eraseDups ∧
    (∀ operation ∈ Document.operations document,
      (∀ router ∈ compilation.registry,
        operation.place ∉ router.procedures.map Procedure.place) ↔ operation.resource? = none) ∧
    ∀ apiName sourceUrl title context,
      (contextOf compilation apiName sourceUrl title).outcome = .ok context →
        List.Forall₂ RouterContext.IsOf compilation.registry context.routers ∧
        context.procedureCount =
          ((Document.operations document).filterMap Operation.resource?).length := by
  have hlists := Compilation.lists_operations h
  have hnodup := (Compilation.isConsistent_registry h).names_nodup
  refine ⟨fun router hrouter ↦ ?_, hlists.names_eq, fun operation hoperation ↦ ?_,
    fun apiName sourceUrl title context hcontext ↦ ?_⟩
  · rw [← Registry.proceduresOf_name_of_mem hnodup hrouter]
    exact hlists.places_eq router.name
  · rw [Option.eq_none_iff_forall_ne_some, ← not_exists,
      ← hlists.exists_router_iff hnodup hoperation]
    push Not
    rfl
  · have hwritten := forall₂_isOf_of_contextOf hcontext
    exact ⟨hwritten, (procedureCount_eq_routeCount hwritten).trans hlists.routeCount_eq⟩

/-- Two resources in turns, and an operation without a resource between them. -/
def interleavedDocument : Value :=
  let operation := object []
  object [("paths", object [
    ("/b/x", object [("post", operation), ("get", operation)]),
    ("/", object [("get", operation)]),
    ("/a/x", object [("get", operation)]),
    ("/b/x/\x7bid\x7d", object [("get", operation)])])]

/-- The routers come in the order of the document, each with its operations in this order. -/
theorem interleavedDocument_inOrder :
    ∃ compilation context,
      (Compilation.ofDocument interleavedDocument []).outcome = .ok compilation ∧
      (contextOf compilation "Api" "" "").outcome = .ok context ∧
      compilation.registry.map Router.name = ["b", "a"] ∧
      context.routers.map (fun router ↦ router.endpoints.map fun e ↦ (e.method, e.path)) =
        [[("post", "/b/x"), ("get", "/b/x"), ("get", "/b/x/\x7bid\x7d")], [("get", "/a/x")]] ∧
      context.procedureCount = 4 := by
  obtain ⟨compilation, h, context, hcontext, hplaces⟩ : ∃ compilation,
      (Compilation.ofDocument interleavedDocument []).outcome = .ok compilation ∧
      ∃ context, (contextOf compilation "Api" "" "").outcome = .ok context ∧
      context.routers.map (fun router ↦ router.endpoints.map fun e ↦ (e.method, e.path)) =
        [[("post", "/b/x"), ("get", "/b/x"), ("get", "/b/x/\x7bid\x7d")], [("get", "/a/x")]] := by
    decide +kernel
  obtain ⟨_, hnames, _, hcontexts⟩ := operations_of_ofDocument h
  have hresources : (Document.operations interleavedDocument).filterMap Operation.resource? =
      ["b", "b", "a", "b"] := by
    decide
  rw [hresources] at hnames hcontexts
  refine ⟨compilation, context, h, hcontext, ?_, hplaces, ?_⟩
  · rw [hnames]
    decide
  · exact (hcontexts "Api" "" "" context hcontext).2

end ApiCompiler.Package
