import ApiCompiler.Proofs.Compile
import ApiCompiler.Proofs.Package.Router

/-!
# The context of a compiled document

A compiled document has a context unless one of its schemas cannot be written or a call looks up a
property that the input under the name of its input model does not have. A call can only miss a
property where a later procedure of the router has put its own input under that name.
-/

namespace ApiCompiler

/-- A property that the call of a procedure looks up and that the input under the name of its input
model does not have. -/
def Router.IsLost (router : Router) (p : Procedure) (key : String) : Prop :=
  ∃ call ∈ p.call, key ∈ Package.lookups p.route call.arguments ∧
    ∃ schema ∈ router.schemas.find? p.inputModel, key ∉ Named.names schema.properties

instance (router : Router) (p : Procedure) (key : String) : Decidable (router.IsLost p key) :=
  inferInstanceAs (Decidable (∃ call ∈ p.call, key ∈ Package.lookups p.route call.arguments ∧
    ∃ schema ∈ router.schemas.find? p.inputModel, key ∉ Named.names schema.properties))

namespace Package

/-- A router whose procedures have complete calls and inputs among its schemas. -/
structure IsBound (router : Router) : Prop where
  exists_schema : ∀ p ∈ router.procedures, ∃ schema, router.schemas.find? p.inputModel = some schema
  exists_call : ∀ p ∈ router.procedures,
    ∃ call, p.call = some call ∧ Call.IsComplete p.route call.arguments

/-- A model for the input that a router keeps under the name of a procedure's input. -/
def IsInputModel (router : Router) (p : Procedure) (model : Model) : Prop :=
  ∃ schema, router.schemas.find? p.inputModel = some schema ∧
    model.HasFieldsFor (Named.names schema.properties)

/-- What is written for a router: a model for the input of each procedure, and the procedures with
their client methods. -/
structure IsWrittenRouter (router : Router) (context : RouterContext) : Prop where
  nspace_eq : context.nspace = router.nspace
  models_nodup : (context.models.map Model.name).Nodup
  length_eq : context.endpoints.length = context.methods.length
  forall_procedure : List.Forall₂
    (fun p pair ↦ ∃ model ∈ context.models, IsWritten model p pair ∧ IsInputModel router p model)
    router.procedures (context.endpoints.zip context.methods)

variable {router : Router} {names : Named String}

theorem exists_modelOf (h : IsBound router) (components : ComponentNames) (scope : ModelScope) :
    ∃ modelOf : Procedure → Model, ∀ p ∈ router.procedures,
      IsReady (hoistInputs components router.schemas scope).1
        (hoistInputs components router.schemas scope).2 (modelOf p) p ∧
      IsInputModel router p (modelOf p) := by
  have hmodels : ∀ p ∈ router.procedures, ∃ model,
      IsReady (hoistInputs components router.schemas scope).1
        (hoistInputs components router.schemas scope).2 model p ∧
      IsInputModel router p model := by
    intro p hp
    obtain ⟨schema, hschema⟩ := h.exists_schema p hp
    obtain ⟨model, hmodel, hfound, hfields⟩ := exists_model_of_hoistInputs hschema scope
    exact ⟨model, ⟨hfound, hmodel, h.exists_call p hp⟩, schema, hschema, hfields⟩
  have : Nonempty Model := ⟨⟨"", [], []⟩⟩
  choose! modelOf hmodelOf using hmodels
  exact ⟨modelOf, hmodelOf⟩

theorem isMissing_iff_isLost {model : Model} {p : Procedure} {key : String}
    (h : IsInputModel router p model) : IsMissing model p key ↔ router.IsLost p key := by
  obtain ⟨schema, hschema, hfields⟩ := h
  rw [IsMissing, Router.IsLost, hfields.names_eq]
  refine exists_congr fun call ↦ and_congr_right fun _ ↦ and_congr_right fun _ ↦ ?_
  simp [hschema]

theorem routerContext_eq (names : Named String) (router : Router) :
    routerContext names router = (do
      let hoisted := hoistInputs (qualifiedComponents names) router.schemas
        (ModelScope.empty routerModuleNames)
      let (endpoints, scope) ←
        endpointsOf (qualifiedComponents names) hoisted.1 router.procedures hoisted.2
      return ⟨router.name, router.nspace, scope.models, endpoints.map Prod.fst,
        endpoints.map Prod.snd⟩) :=
  rfl

/-- A router without lost properties is written. -/
theorem exists_routerContext (h : IsBound router)
    (hkept : ∀ p ∈ router.procedures, ∀ key, ¬ router.IsLost p key) :
    ∃ context, (routerContext names router).outcome = .ok context ∧
      IsWrittenRouter router context := by
  obtain ⟨modelOf, hmodelOf⟩ :=
    exists_modelOf h (qualifiedComponents names) (ModelScope.empty routerModuleNames)
  have hscope := hoistInputs_extends (qualifiedComponents names) router.schemas
    (ModelScope.empty routerModuleNames)
  obtain ⟨rendered, final, hrendered, hfinal, hforall⟩ := exists_endpointsOf hscope
    (fun p hp ↦ (hmodelOf p hp).1) fun p hp key ↦ by
      rw [isMissing_iff_isLost (hmodelOf p hp).2]
      exact hkept p hp key
  have hzip : (rendered.map Prod.fst).zip (rendered.map Prod.snd) = rendered := by
    rw [List.zip_map']
    exact List.map_id rendered
  refine ⟨_, by rw [routerContext_eq]; exact Report.outcome_bind_of_ok hrendered _, ?_⟩
  constructor
  · rfl
  · exact (hscope.trans hfinal).names_nodup
  · exact (List.length_map _).trans (List.length_map _).symm
  · show List.Forall₂ _ router.procedures ((rendered.map Prod.fst).zip (rendered.map Prod.snd))
    rw [hzip]
    refine List.forall₂_iff_zip.mpr ⟨hforall.length_eq, fun {p pair} hpair ↦ ?_⟩
    obtain ⟨hready, hinput⟩ := hmodelOf p (List.of_mem_zip hpair).1
    exact ⟨modelOf p, hfinal.mem_models hready.mem_models,
      (List.forall₂_iff_zip.mp hforall).2 hpair, hinput⟩

/-- A router with a lost property cannot be written. -/
theorem exists_missingKey_of_routerContext (h : IsBound router)
    (hlost : ∃ p ∈ router.procedures, ∃ key, router.IsLost p key) :
    ∃ key, (routerContext names router).outcome = .error (.missingKey key) := by
  obtain ⟨modelOf, hmodelOf⟩ :=
    exists_modelOf h (qualifiedComponents names) (ModelScope.empty routerModuleNames)
  have hscope := hoistInputs_extends (qualifiedComponents names) router.schemas
    (ModelScope.empty routerModuleNames)
  obtain ⟨p, hp, lost, hlost⟩ := hlost
  obtain ⟨key, hkey⟩ := exists_missingKey_of_endpointsOf hscope (fun p hp ↦ (hmodelOf p hp).1)
    ⟨p, hp, lost, (isMissing_iff_isLost (hmodelOf p hp).2).mpr hlost⟩
  refine ⟨key, ?_⟩
  rw [routerContext_eq, Report.outcome_bind_eq_error]
  exact .inl hkey

/-! ## All routers -/

theorem exists_routerContexts {routers : List Router} (h : ∀ router ∈ routers, IsBound router)
    (hkept : ∀ router ∈ routers, ∀ p ∈ router.procedures, ∀ key, ¬ router.IsLost p key) :
    ∃ contexts, (routerContexts names routers).outcome = .ok contexts ∧
      List.Forall₂ IsWrittenRouter routers contexts := by
  induction routers with
  | nil => exact ⟨[], rfl, .nil⟩
  | cons router rest ih =>
    obtain ⟨first, hfirst, hwritten⟩ := exists_routerContext
      (h router (List.mem_cons_self ..)) (hkept router (List.mem_cons_self ..))
    obtain ⟨others, hothers, hforall⟩ := ih
      (fun r hr ↦ h r (List.mem_cons_of_mem router hr))
      (fun r hr ↦ hkept r (List.mem_cons_of_mem router hr))
    refine ⟨first :: others, ?_, .cons hwritten hforall⟩
    rw [routerContexts, Report.outcome_bind_of_ok hfirst, Report.outcome_bind_of_ok hothers]
    rfl

theorem exists_missingKey_of_routerContexts {routers : List Router}
    (h : ∀ router ∈ routers, IsBound router)
    (hlost : ∃ router ∈ routers, ∃ p ∈ router.procedures, ∃ key, router.IsLost p key) :
    ∃ key, (routerContexts names routers).outcome = .error (.missingKey key) := by
  induction routers with
  | nil => simp at hlost
  | cons router rest ih =>
    have hrouter := h router (List.mem_cons_self ..)
    by_cases hfirst : ∃ p ∈ router.procedures, ∃ key, router.IsLost p key
    · obtain ⟨key, hkey⟩ := exists_missingKey_of_routerContext hrouter hfirst
      exact ⟨key, by rw [routerContexts, Report.outcome_bind_eq_error]; exact .inl hkey⟩
    · obtain ⟨other, hother, hlost⟩ := hlost
      have hother : other ∈ rest := by
        rcases List.mem_cons.mp hother with rfl | hother
        · exact absurd hlost hfirst
        · exact hother
      obtain ⟨key, hkey⟩ := ih (fun r hr ↦ h r (List.mem_cons_of_mem router hr))
        ⟨other, hother, hlost⟩
      push Not at hfirst
      obtain ⟨context, hcontext, _⟩ := exists_routerContext hrouter hfirst
      refine ⟨key, ?_⟩
      rw [routerContexts, Report.outcome_bind_of_ok hcontext, Report.outcome_bind_eq_error]
      exact .inl hkey

/-! ## Compiled documents -/

theorem isBound_of_mem {document : Value} {overrides : Overrides} {compilation : Compilation}
    (h : (Compilation.ofDocument document overrides).outcome = .ok compilation)
    (hrouter : router ∈ compilation.registry) : IsBound router where
  exists_schema p hp := by
    obtain ⟨q, _, _, hschema⟩ := (Compilation.hasInputs_of_mem h hrouter).exists_find?_schemas hp
    exact ⟨q.route.inputSchema, hschema⟩
  exists_call p hp := by
    obtain ⟨call, hcall, harguments⟩ := (Compilation.isCompiled_of_mem h hrouter hp).exists_call
    exact ⟨call, hcall, Call.isComplete_of_argumentsOf harguments⟩

/-- Whether the schemas of a compiled document stand in the way of its context. -/
def isRefused (compilation : Compilation) : Bool :=
  !isWritable compilation || (schemasOf compilation).any Schema.isTooDeep

variable {compilation : Compilation} {apiName sourceUrl title : String}

theorem outcome_contextOf_of_isRefused (h : isRefused compilation = true) :
    ∃ failure, (contextOf compilation apiName sourceUrl title).outcome = .error failure ∧
      ∀ key, failure ≠ .missingKey key := by
  rw [contextOf]
  cases hwritable : isWritable compilation with
  | false => exact ⟨.tooLong, rfl, nofun⟩
  | true =>
    rw [isRefused, hwritable, Bool.not_true, Bool.false_or] at h
    rw [h]
    exact ⟨.endless none, rfl, nofun⟩

/-- A document whose schemas can be written has a context as soon as its routers have. -/
theorem outcome_contextOf (h : isRefused compilation = false) :
    (contextOf compilation apiName sourceUrl title).outcome =
      (routerContexts (classNames (Named.names compilation.table))
        compilation.registry).outcome.map fun routers ↦
        ⟨apiClassName apiName, if title == "" then apiName else title, sourceUrl,
          componentModule compilation.table (classNames (Named.names compilation.table)),
          routers⟩ := by
  rw [isRefused, Bool.or_eq_false_iff, Bool.not_eq_false'] at h
  rw [contextOf, h.1, h.2]
  dsimp only
  rw [if_pos rfl, if_neg Bool.false_ne_true, Report.outcome_bind]
  rfl

/-- A context is made of the contexts of its routers. -/
theorem exists_routerContexts_of_contextOf {context : Context}
    (h : (contextOf compilation apiName sourceUrl title).outcome = .ok context) :
    isRefused compilation = false ∧ ∃ routers,
      (routerContexts (classNames (Named.names compilation.table)) compilation.registry).outcome =
        .ok routers ∧
      context = ⟨apiClassName apiName, if title == "" then apiName else title, sourceUrl,
        componentModule compilation.table (classNames (Named.names compilation.table)),
        routers⟩ := by
  cases hrefused : isRefused compilation with
  | true =>
    obtain ⟨failure, hfailure, _⟩ := outcome_contextOf_of_isRefused hrefused
    cases h.symm.trans hfailure
  | false =>
    rw [outcome_contextOf hrefused] at h
    cases hrouters : (routerContexts (classNames (Named.names compilation.table))
        compilation.registry).outcome with
    | error failure =>
      rw [hrouters] at h
      cases h
    | ok routers =>
      rw [hrouters, Except.map, Except.ok.injEq] at h
      exact ⟨rfl, routers, rfl, h.symm⟩

section Compiled

variable {document : Value} {overrides : Overrides}

/-- The context of a compiled document is written for its routers in order. -/
theorem forall₂_of_contextOf {context : Context}
    (h : (Compilation.ofDocument document overrides).outcome = .ok compilation)
    (hcontext : (contextOf compilation apiName sourceUrl title).outcome = .ok context) :
    List.Forall₂ IsWrittenRouter compilation.registry context.routers := by
  have hbound : ∀ router ∈ compilation.registry, IsBound router := fun _ ↦ isBound_of_mem h
  obtain ⟨-, routers, hrouters, rfl⟩ := exists_routerContexts_of_contextOf hcontext
  by_cases hlost : ∃ router ∈ compilation.registry, ∃ p ∈ router.procedures, ∃ key,
      router.IsLost p key
  · obtain ⟨key, hkey⟩ := exists_missingKey_of_routerContexts hbound hlost
    cases hrouters.symm.trans hkey
  · push Not at hlost
    obtain ⟨contexts, hcontexts, hforall⟩ := exists_routerContexts hbound hlost
    obtain rfl : contexts = routers := Except.ok.inj (hcontexts.symm.trans hrouters)
    exact hforall

/-- A compiled document whose schemas can be written has no context exactly when a call looks up a
property that its input does not have. -/
theorem exists_missingKey_iff
    (h : (Compilation.ofDocument document overrides).outcome = .ok compilation) :
    (∃ key, (contextOf compilation apiName sourceUrl title).outcome = .error (.missingKey key)) ↔
      isRefused compilation = false ∧ ∃ router ∈ compilation.registry, ∃ p ∈ router.procedures,
        ∃ key, router.IsLost p key := by
  have hbound : ∀ router ∈ compilation.registry, IsBound router := fun _ ↦ isBound_of_mem h
  cases hrefused : isRefused compilation with
  | true =>
    obtain ⟨failure, hfailure, hother⟩ := outcome_contextOf_of_isRefused hrefused
    refine ⟨fun ⟨key, hkey⟩ ↦ ?_, fun hlost ↦ absurd hlost.1 (by simp)⟩
    exact absurd (Except.error.inj (hfailure.symm.trans hkey)) (hother key)
  | false =>
    rw [outcome_contextOf hrefused]
    by_cases hlost : ∃ router ∈ compilation.registry, ∃ p ∈ router.procedures, ∃ key,
        router.IsLost p key
    · obtain ⟨key, hkey⟩ := exists_missingKey_of_routerContexts hbound hlost
      exact ⟨fun _ ↦ ⟨rfl, hlost⟩, fun _ ↦ ⟨key, by rw [hkey]; rfl⟩⟩
    · refine ⟨fun ⟨key, hkey⟩ ↦ ?_, fun h ↦ absurd h.2 hlost⟩
      push Not at hlost
      obtain ⟨contexts, hcontexts, _⟩ := exists_routerContexts hbound hlost
      rw [hcontexts] at hkey
      cases hkey

theorem not_isLost_of_contextOf {context : Context}
    (h : (Compilation.ofDocument document overrides).outcome = .ok compilation)
    (hcontext : (contextOf compilation apiName sourceUrl title).outcome = .ok context)
    (hrouter : router ∈ compilation.registry) {p : Procedure} (hp : p ∈ router.procedures)
    (key : String) : ¬ router.IsLost p key := by
  intro hlost
  have hrefused := (exists_routerContexts_of_contextOf hcontext).1
  obtain ⟨missing, hmissing⟩ := (exists_missingKey_iff h).mpr
    ⟨hrefused, router, hrouter, p, hp, key, hlost⟩
  cases hcontext.symm.trans hmissing

end Compiled

end Package

end ApiCompiler
