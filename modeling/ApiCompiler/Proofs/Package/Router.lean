import ApiCompiler.Package.Context
import ApiCompiler.Proofs.Model.Scope
import ApiCompiler.Proofs.Package.Forwarding

/-!
# Router modules

The module of a router has a model for the input of each procedure, and each procedure calls its
client method with fields of that model. A module is written exactly when every property that a call
looks up is a property of that model.
-/

namespace ApiCompiler.Package

open ModelScope (Extends)

variable {components : ComponentNames} {inputs : Named String} {scope : ModelScope}

/-! ## Models of inputs -/

theorem hoistInputs_cons (name : String) (schema : Schema) (rest : List (String × Schema))
    (scope : ModelScope) :
    hoistInputs components ((name, schema) :: rest) scope =
      let hoisted := schema.hoist components name scope
      let inputs := hoistInputs components rest hoisted.2
      ((name, hoisted.1) :: inputs.1, inputs.2) :=
  rfl

theorem hoistInputs_extends (components : ComponentNames) (schemas : List (String × Schema))
    (scope : ModelScope) :
    scope.Extends (hoistInputs components schemas scope).2 := by
  induction schemas generalizing scope with
  | nil => exact Extends.refl scope
  | cons entry rest ih =>
    obtain ⟨name, schema⟩ := entry
    rw [hoistInputs_cons]
    exact (Schema.hoist_extends components schema name scope).trans (ih _)

/-- Every input is made a model at some point, and what is made later adds to it. -/
theorem exists_hoist_of_hoistInputs (components : ComponentNames) {schemas : Named Schema}
    {name : String} {schema : Schema} (h : schemas.find? name = some schema) (scope : ModelScope) :
    ∃ start, (hoistInputs components schemas scope).1.find? name =
        some (schema.hoist components name start).1 ∧
      (schema.hoist components name start).2.Extends
        (hoistInputs components schemas scope).2 := by
  induction schemas generalizing scope with
  | nil => simp [Named.find?] at h
  | cons entry rest ih =>
    obtain ⟨other, first⟩ := entry
    rw [Named.find?_cons] at h
    rw [hoistInputs_cons]
    dsimp only
    rw [Named.find?_cons]
    split at h
    · next hname =>
      cases h
      subst hname
      exact ⟨scope, if_pos rfl, hoistInputs_extends components rest _⟩
    · next hname =>
      obtain ⟨start, hfound, hextends⟩ := ih h (first.hoist components other scope).2
      exact ⟨start, by rw [if_neg hname]; exact hfound, hextends⟩

/-- Every input has a model of the module, with a field for each of its properties. -/
theorem exists_model_of_hoistInputs {schemas : Named Schema} {name : String} {schema : Schema}
    (h : schemas.find? name = some schema) (scope : ModelScope) :
    ∃ model ∈ (hoistInputs components schemas scope).2.models,
      (hoistInputs components schemas scope).1.find? name = some model.name ∧
        model.HasFieldsFor (Named.names schema.properties) := by
  obtain ⟨start, hfound, hextends⟩ := exists_hoist_of_hoistInputs components h scope
  obtain ⟨model, hlast, hclass, hfields⟩ :=
    Schema.exists_model_of_hoist components schema name start
  exact ⟨model, hextends.mem_models (List.mem_of_getLast? hlast), hclass ▸ hfound, hfields⟩

/-- A model is found under its class name. -/
theorem fieldsOf_of_mem (h : (scope.models.map Model.name).Nodup) {model : Model}
    (hmodel : model ∈ scope.models) : fieldsOf scope model.name = model.names := by
  have hfound : (scope.models.find? fun m ↦ m.name == model.name) = some model := by
    obtain ⟨other, hother⟩ : ∃ other,
        (scope.models.find? fun m ↦ m.name == model.name) = some other := by
      rw [← Option.isSome_iff_exists, List.find?_isSome]
      exact ⟨model, hmodel, beq_self_eq_true model.name⟩
    have hname : other.name = model.name := by simpa using List.find?_some hother
    rw [hother, List.inj_on_of_nodup_map h (List.mem_of_find?_eq_some hother) hmodel hname]
  rw [fieldsOf, hfound]
  rfl

/-! ## Procedures -/

/-- What is written for a procedure whose input is a model. -/
structure IsWritten (model : Model) (p : Procedure) (rendered : Endpoint × ClientMethod) :
    Prop where
  inputModel_eq : rendered.1.inputModel = model.name
  function_eq : rendered.2.function = p.function
  path_eq : rendered.2.path = p.route.path
  params_eq : rendered.2.params = clientParams p.route
  call_eq : ∃ call, p.call = some call ∧ rendered.1.call = ⟨call.resourceNamespace, call.methodName,
    passedArguments model.names (clientParams p.route) p.route false call.arguments⟩

/-- A procedure with a complete call, whose input has a model of the module. -/
structure IsReady (inputs : Named String) (scope : ModelScope) (model : Model) (p : Procedure) :
    Prop where
  find?_inputs : inputs.find? p.inputModel = some model.name
  mem_models : model ∈ scope.models
  exists_call : ∃ call, p.call = some call ∧ Call.IsComplete p.route call.arguments

/-- A property that the call of a procedure looks up and that its model does not have. -/
def IsMissing (model : Model) (p : Procedure) (key : String) : Prop :=
  ∃ call ∈ p.call, key ∈ lookups p.route call.arguments ∧ key ∉ model.names.names

variable {model : Model} {p : Procedure}

theorem exists_endpointOf (hnodup : (scope.models.map Model.name).Nodup)
    (hready : IsReady inputs scope model p) (hpresent : ∀ key, ¬ IsMissing model p key)
    (response : TypeExpr) :
    ∃ rendered, (endpointOf scope inputs response p).outcome = .ok rendered ∧
      IsWritten model p rendered := by
  obtain ⟨hinput, hmodel, call, hcall, hcomplete⟩ := hready
  have harguments := outcome_passArguments model.names (keyText_mem_clientParams hcomplete)
    (fun key hkey ↦ by_contra fun hmissing ↦ hpresent key ⟨call, hcall, hkey, hmissing⟩) false
  rw [endpointOf, Report.outcome_bind_of_ok (outcome_require hinput), hcall,
    fieldsOf_of_mem hnodup hmodel]
  dsimp only
  rw [Report.outcome_bind_of_ok (Report.outcome_pure call), forwardingCall, Report.outcome_bind,
    Report.outcome_bind_of_ok harguments]
  exact ⟨_, rfl, rfl, rfl, rfl, rfl, call, hcall, rfl⟩

theorem exists_missingKey_of_endpointOf (hnodup : (scope.models.map Model.name).Nodup)
    (hready : IsReady inputs scope model p) (hmissing : ∃ key, IsMissing model p key)
    (response : TypeExpr) :
    ∃ key, (endpointOf scope inputs response p).outcome = .error (.missingKey key) := by
  obtain ⟨hinput, hmodel, call, hcall, hcomplete⟩ := hready
  obtain ⟨key, _, hbound, hkey, hnot⟩ := hmissing
  cases hbound.symm.trans hcall
  obtain ⟨first, hfirst⟩ : ∃ first, (lookups p.route call.arguments).find?
      (fun key ↦ !model.names.names.contains key) = some first := by
    rw [← Option.isSome_iff_exists, List.find?_isSome]
    exact ⟨key, hkey, by simpa using hnot⟩
  have harguments :=
    outcome_passArguments_of_find? (keyText_mem_clientParams hcomplete) hfirst false
  refine ⟨first, ?_⟩
  rw [endpointOf, Report.outcome_bind_of_ok (outcome_require hinput), hcall,
    fieldsOf_of_mem hnodup hmodel]
  dsimp only
  rw [Report.outcome_bind_of_ok (Report.outcome_pure call), Report.outcome_bind_eq_error,
    forwardingCall, Report.outcome_bind_eq_error]
  exact .inl (.inl harguments)

/-! ## All procedures of a router -/

theorem IsReady.of_extends {final : ModelScope} (h : IsReady inputs scope model p)
    (hextends : scope.Extends final) : IsReady inputs final model p :=
  ⟨h.find?_inputs, hextends.mem_models h.mem_models, h.exists_call⟩

/-- The scope in which a procedure is written, after its response has been rendered. -/
def afterResponse (components : ComponentNames) (p : Procedure) (scope : ModelScope) : ModelScope :=
  (p.route.response.render components false (Naming.pascal p.route.name ++ "Response") scope).2

theorem afterResponse_extends (components : ComponentNames) (p : Procedure) (scope : ModelScope) :
    scope.Extends (afterResponse components p scope) :=
  Schema.render_extends false _ p.route.response scope

theorem endpointsOf_cons (p : Procedure) (rest : List Procedure) (scope : ModelScope) :
    endpointsOf components inputs (p :: rest) scope = (do
      let response := (p.route.response.render components false
        (Naming.pascal p.route.name ++ "Response") scope).1
      let endpoint ← endpointOf (afterResponse components p scope) inputs response p
      let (endpoints, scope) ← endpointsOf components inputs rest (afterResponse components p scope)
      return (endpoint :: endpoints, scope)) :=
  rfl

/-- Written procedures are written one by one, each with its response in a scope that the later ones
add to. -/
theorem forall₂_of_endpointsOf {procedures : List Procedure} {final : ModelScope}
    {rendered : List (Endpoint × ClientMethod)}
    (h : (endpointsOf components inputs procedures scope).outcome = .ok (rendered, final)) :
    scope.Extends final ∧
      List.Forall₂ (fun p pair ↦ ∃ start, (afterResponse components p start).Extends final ∧
        (endpointOf (afterResponse components p start) inputs (p.route.response.render components
          false (Naming.pascal p.route.name ++ "Response") start).1 p).outcome = .ok pair)
        procedures rendered := by
  induction procedures generalizing scope rendered with
  | nil =>
    cases h
    exact ⟨Extends.refl _, .nil⟩
  | cons p rest ih =>
    rw [endpointsOf_cons] at h
    simp only [Report.outcome_bind_eq_ok] at h
    obtain ⟨first, hfirst, ⟨others, last⟩, hothers, h⟩ := h
    cases h
    obtain ⟨hextends, hforall⟩ := ih hothers
    exact ⟨(afterResponse_extends components p scope).trans hextends,
      .cons ⟨scope, hextends, hfirst⟩ hforall⟩

variable {reserved : List String} {modelOf : Procedure → Model}

/-- Where no property is missing, every procedure is written. -/
theorem exists_endpointsOf {procedures : List Procedure}
    (hscope : (ModelScope.empty reserved).Extends scope)
    (hready : ∀ p ∈ procedures, IsReady inputs scope (modelOf p) p)
    (hpresent : ∀ p ∈ procedures, ∀ key, ¬ IsMissing (modelOf p) p key) :
    ∃ rendered final,
      (endpointsOf components inputs procedures scope).outcome = .ok (rendered, final) ∧
      scope.Extends final ∧
      List.Forall₂ (fun p pair ↦ IsWritten (modelOf p) p pair) procedures rendered := by
  induction procedures generalizing scope with
  | nil => exact ⟨[], scope, rfl, Extends.refl scope, .nil⟩
  | cons p rest ih =>
    have hextends := afterResponse_extends components p scope
    have hnodup := (hscope.trans hextends).names_nodup
    obtain ⟨first, hfirst, hwritten⟩ := exists_endpointOf hnodup
      ((hready p (List.mem_cons_self ..)).of_extends hextends)
      (hpresent p (List.mem_cons_self ..)) _
    obtain ⟨others, final, hothers, hfinal, hforall⟩ := ih (hscope.trans hextends)
      (fun q hq ↦ (hready q (List.mem_cons_of_mem p hq)).of_extends hextends)
      (fun q hq ↦ hpresent q (List.mem_cons_of_mem p hq))
    refine ⟨first :: others, final, ?_, hextends.trans hfinal, .cons hwritten hforall⟩
    rw [endpointsOf_cons]
    dsimp only
    rw [Report.outcome_bind_of_ok hfirst, Report.outcome_bind_of_ok hothers]
    rfl

/-- Where some property is missing, the router cannot be written. -/
theorem exists_missingKey_of_endpointsOf {procedures : List Procedure}
    (hscope : (ModelScope.empty reserved).Extends scope)
    (hready : ∀ p ∈ procedures, IsReady inputs scope (modelOf p) p)
    (hmissing : ∃ p ∈ procedures, ∃ key, IsMissing (modelOf p) p key) :
    ∃ key, (endpointsOf components inputs procedures scope).outcome = .error (.missingKey key) := by
  induction procedures generalizing scope with
  | nil => simp at hmissing
  | cons p rest ih =>
    have hextends := afterResponse_extends components p scope
    have hnodup := (hscope.trans hextends).names_nodup
    have hfirst := (hready p (List.mem_cons_self ..)).of_extends hextends
    rw [endpointsOf_cons]
    dsimp only
    by_cases hp : ∃ key, IsMissing (modelOf p) p key
    · obtain ⟨key, hkey⟩ := exists_missingKey_of_endpointOf hnodup hfirst hp _
      exact ⟨key, Report.outcome_bind_eq_error.mpr (.inl hkey)⟩
    · obtain ⟨q, hq, hlost⟩ := hmissing
      have hq : q ∈ rest := by
        rcases List.mem_cons.mp hq with rfl | hq
        · exact absurd hlost hp
        · exact hq
      obtain ⟨key, hkey⟩ := ih (hscope.trans hextends)
        (fun q hq ↦ (hready q (List.mem_cons_of_mem p hq)).of_extends hextends) ⟨q, hq, hlost⟩
      push Not at hp
      obtain ⟨first, hwritten, _⟩ := exists_endpointOf hnodup hfirst hp _
      refine ⟨key, ?_⟩
      rw [Report.outcome_bind_of_ok hwritten, Report.outcome_bind_eq_error]
      exact .inl hkey

end ApiCompiler.Package
