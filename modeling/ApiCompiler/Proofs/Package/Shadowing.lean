import ApiCompiler.Proofs.Model.ClassName
import ApiCompiler.Proofs.Package.Operations

/-!
# Functions and the names around them

The functions of a router module stand beside the names that its annotations, decorators and bodies
refer to. Functions are snake-case names that keep clear of a list of reserved ones; classes have
capitals, and so have most names that are imported. What is left are the six built-in types, which
the list does not have: a procedure with the name of one of them hides it from the rest of its
module.
-/

namespace ApiCompiler

open Naming (HasCapital)
open Document.Sample (object)

/-- The built-in types that annotations refer to. -/
def builtinTypes : List String :=
  ["str", "int", "float", "bool", "list", "dict"]

namespace Package

/-- Names of a router module that its decorators and parameters refer to. -/
def endpointNames : List String :=
  ["router", "create_context", "public_procedure", "protected_procedure", "query_input"]

/-- The names that the annotations, decorators and bodies of a router module refer to. -/
def RouterContext.referredNames (router : RouterContext) : List String :=
  moduleNames ++ routerModuleNames ++ endpointNames ++ router.models.map Model.name

/-! ## Classes of a router module -/

section Classes

variable {components : ComponentNames} {inputs : Named String} {scope final : ModelScope}

theorem hoistInputs_hasCapitals {schemas : Named Schema}
    (hnames : ∀ name ∈ schemas.names, HasCapital name) (h : scope.HasCapitals) :
    (hoistInputs components schemas scope).2.HasCapitals := by
  induction schemas generalizing scope with
  | nil => exact h
  | cons entry rest ih =>
    obtain ⟨name, schema⟩ := entry
    rw [Named.names_cons] at hnames
    obtain ⟨hname, hrest⟩ := List.forall_mem_cons.mp hnames
    rw [hoistInputs_cons]
    exact ih hrest (Schema.hoist_hasCapitals components schema hname h)

theorem endpointsOf_hasCapitals {procedures : List Procedure}
    {rendered : List (Endpoint × ClientMethod)} (h : scope.HasCapitals)
    (hrendered : (endpointsOf components inputs procedures scope).outcome = .ok (rendered, final)) :
    final.HasCapitals := by
  induction procedures generalizing scope rendered with
  | nil =>
    cases hrendered
    exact h
  | cons p rest ih =>
    rw [endpointsOf_cons] at hrendered
    simp only [Report.outcome_bind_eq_ok] at hrendered
    obtain ⟨_, _, ⟨others, _⟩, hothers, hrendered⟩ := hrendered
    cases hrendered
    have hsuffix : HasCapital "Response" := by decide
    exact ih (Schema.render_hasCapitals false (hsuffix.append_left _) p.route.response h) hothers

/-- The inputs of a router are named after procedures with a suffix, which has a capital. -/
theorem hasCapital_of_mem_schemas {router : Router} (h : router.HasInputs) {name : String}
    (hname : name ∈ router.schemas.names) : HasCapital name := by
  obtain ⟨schema, hschema⟩ := Named.exists_find?_of_mem hname
  rw [h.find?_schemas, Option.map_eq_some_iff] at hschema
  obtain ⟨p, hp, _⟩ := hschema
  obtain ⟨hmem, rfl⟩ := Router.mem_of_owner? hp
  have hsuffix : HasCapital "Input" := by decide
  rw [h.inputModel_eq p hmem]
  exact hsuffix.append_left _

theorem hasCapital_of_mem_models {names : Named String} {router : Router} {rendered : RouterContext}
    (hinputs : router.HasInputs) (h : (routerContext names router).outcome = .ok rendered) :
    ∀ model ∈ rendered.models, HasCapital model.name := by
  rw [routerContext_eq, Report.outcome_bind_eq_ok] at h
  obtain ⟨⟨endpoints, final⟩, hendpoints, h⟩ := h
  cases h
  have hempty : (ModelScope.empty routerModuleNames).HasCapitals := by
    simp [ModelScope.HasCapitals, ModelScope.empty]
  refine endpointsOf_hasCapitals ?_ hendpoints
  exact hoistInputs_hasCapitals (fun _ ↦ hasCapital_of_mem_schemas hinputs) hempty

end Classes

/-! ## Functions -/

/-- A function is a built-in type exactly when the snake-case name of its procedure is. -/
theorem functionOf_mem_builtinTypes_iff (procedure : String) :
    Naming.functionOf procedure ∈ builtinTypes ↔
      Naming.snakeIdentifier procedure ∈ builtinTypes := by
  have hwords : ∀ word ∈ builtinTypes,
      word ∉ Naming.keywords ++ Naming.functionReserved ∧ '_' ∉ word.toList ∧
        Naming.identifierStem word.toList = word.toList := by
    decide
  have hsame {word : String} (hword : word ∈ builtinTypes) :
      Naming.functionOf procedure = word ↔ Naming.snakeIdentifier procedure = word := by
    obtain ⟨hfree, hplain, hstem⟩ := hwords word hword
    exact Naming.identifier_eq_iff (fun _ ↦ Naming.isSnakeChar_of_mem_snakeIdentifier) hfree hplain
      hstem
  constructor
  · intro h
    rwa [(hsame h).mp rfl]
  · intro h
    rwa [(hsame h).mpr rfl]

/-- Among the names that a router module refers to, a snake-case name that is not reserved can only
be a built-in type. -/
theorem mem_referredNames_iff {router : RouterContext} {function : String}
    (hsnake : ∀ c ∈ function.toList, Naming.IsSnakeChar c)
    (hfree : function ∉ Naming.functionReserved)
    (hmodels : ∀ model ∈ router.models, HasCapital model.name) :
    function ∈ router.referredNames ↔ function ∈ builtinTypes := by
  have hcapital : ¬ HasCapital function := Naming.not_hasCapital_of_forall hsnake
  have hnames : ∀ name ∈ moduleNames ++ routerModuleNames ++ endpointNames,
      HasCapital name ∨ name ∈ Naming.functionReserved ∨ name ∈ builtinTypes := by
    decide
  have htypes : ∀ name ∈ builtinTypes,
      name ∈ moduleNames ++ routerModuleNames ++ endpointNames := by
    decide
  rw [RouterContext.referredNames, List.mem_append]
  constructor
  · rintro (hname | hmodel)
    · rcases hnames function hname with h | h | h
      · exact absurd h hcapital
      · exact absurd h hfree
      · exact h
    · obtain ⟨model, hmem, rfl⟩ := List.mem_map.mp hmodel
      exact absurd (hmodels model hmem) hcapital
  · exact fun h ↦ .inl (htypes function h)

/-- In every router module a function hides a name that the module refers to exactly when it has the
name of a built-in type, which is when the snake-case name of its procedure is one. -/
theorem function_mem_referredNames_iff {document : Value} {overrides : Overrides}
    {compilation : Compilation} {apiName sourceUrl title : String} {context : Context}
    (h : (Compilation.ofDocument document overrides).outcome = .ok compilation)
    (hcontext : (contextOf compilation apiName sourceUrl title).outcome = .ok context) :
    ∀ router ∈ context.routers, ∀ e ∈ router.endpoints,
      (e.function ∈ router.referredNames ↔ e.function ∈ builtinTypes) ∧
      (e.function ∈ builtinTypes ↔ Naming.snakeIdentifier e.name ∈ builtinTypes) := by
  intro rendered hrendered e he
  obtain ⟨router, hrouter, houtcome⟩ :=
    exists_mem_of_forall₂ (forall₂_routerContext_of_contextOf hcontext) hrendered
  obtain ⟨p, hp, hof⟩ := exists_mem_of_forall₂ (isOf_of_routerContext houtcome).endpoints he
  have hconsistent := (Compilation.isConsistent_registry h).router_isConsistent router hrouter
  have hfunction := hconsistent.function_eq p hp
  have hmodels := hasCapital_of_mem_models (Compilation.hasInputs_of_mem h hrouter) houtcome
  rw [hof.function_eq, hof.name_eq, hfunction]
  constructor
  · apply mem_referredNames_iff
    · exact fun _ hc ↦ Naming.isSnakeChar_of_mem_identifier hc
    · exact (Naming.functionOf_isUsable p.route.name).not_reserved
    · exact hmodels
  · exact functionOf_mem_builtinTypes_iff p.route.name

/-- A procedure with the name of a type, before one whose result is of this type. -/
def listingDocument : Value :=
  let response := object [("content",
    Document.jsonContent (object [("type", .text "array"), ("items", .map [])]))]
  object [("paths", object [
    ("/r/a", object [("get", object [("operationId", .text "list")])]),
    ("/r/b", object [("get", object [("operationId", .text "names"),
      ("responses", object [("200", response)])])])])]

/-- The function of the first procedure hides the type that the second decorator refers to. -/
theorem listingDocument_hidesType :
    ∃ compilation context,
      (Compilation.ofDocument listingDocument []).outcome = .ok compilation ∧
      (contextOf compilation "Api" "" "").outcome = .ok context ∧
      ∃ router ∈ context.routers, ∃ e ∈ router.endpoints, e.function ∈ router.referredNames ∧
        ∃ later ∈ router.endpoints,
          later.decorator =
            "@public_procedure.query(router, 'names', response_model=list[Any])" := by
  obtain ⟨compilation, h, context, hcontext, router, hrouter, e, he, hname, hlater⟩ :
      ∃ compilation, (Compilation.ofDocument listingDocument []).outcome = .ok compilation ∧
      ∃ context, (contextOf compilation "Api" "" "").outcome = .ok context ∧
      ∃ router ∈ context.routers, ∃ e ∈ router.endpoints,
        Naming.snakeIdentifier e.name ∈ builtinTypes ∧ ∃ later ∈ router.endpoints,
          later.decorator =
            "@public_procedure.query(router, 'names', response_model=list[Any])" := by
    decide +kernel
  obtain ⟨hreferred, htype⟩ := function_mem_referredNames_iff h hcontext router hrouter e he
  exact ⟨compilation, context, h, hcontext, router, hrouter, e, he,
    hreferred.mpr (htype.mpr hname), hlater⟩

end Package

end ApiCompiler
