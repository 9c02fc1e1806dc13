import ApiCompiler.Proofs.Package.Nullability
import ApiCompiler.Proofs.Package.Operations
import ApiCompiler.Proofs.Schema.Closed

/-!
# References from routers to components

Two modules have to agree on the name of a component: the one that defines it, and the one of a
router that refers to it. Both take it from the same list. A router refers to components of the
table only, at whatever depth of an input or a response, so that each of its references is written
as the qualified name of a class or an alias that the module of components defines once, and for
that component.
-/

namespace ApiCompiler

namespace Schema

/-! ## References in annotations -/

mutual
/-- Each reference in a schema has, in the annotation of the schema and in the classes that it
names, an annotation of its own, which consists of a name that suits the component. -/
def EachReference (P : String → Option String → Prop) (models : List Model) :
    Schema → TypeExpr → Prop
  | .ref _ component, type => P component type.name?
  | .array _ items, type =>
    ∃ inner, type.items? = some inner ∧ EachReference P models items inner
  | .object _ properties, type =>
    properties = [] ∨ ∃ model ∈ models, type.name? = some model.name ∧
      EachField P models properties model.fields
  | _, _ => True
termination_by structural schema => schema
/-- The same for properties and the fields that stand for them. -/
def EachField (P : String → Option String → Prop) (models : List Model) :
    List (String × Bool × Schema) → List ModelField → Prop
  | [], [] => True
  | (property, _, schema) :: rest, f :: fields =>
    f.property = property ∧ EachReference P models schema f.type ∧ EachField P models rest fields
  | _, _ => False
termination_by structural properties => properties
end

variable {P : String → Option String → Prop} {components : ComponentNames} {models : List Model}

/-- Whether a value may be left out does not matter to the references in its annotation. -/
theorem eachReference_orNoneIf (schema : Schema) (condition : Bool) (type : TypeExpr) :
    EachReference P models schema (type.orNoneIf condition) ↔
      EachReference P models schema type := by
  cases schema with
  | ref => rw [EachReference, EachReference, TypeExpr.name?_orNoneIf]
  | array => rw [EachReference, EachReference, TypeExpr.items?_orNoneIf]
  | object => rw [EachReference, EachReference, TypeExpr.name?_orNoneIf]
  | _ => rfl

mutual
/-- Rendering writes every reference by the expression for its component. -/
theorem eachReference_render (inModel : Bool) (hint : String) : (schema : Schema) →
    (∀ component ∈ schema.references, ∀ inModel,
      P component (componentType (components inModel component)).name?) → (scope : ModelScope) →
    (schema.render components inModel hint scope).2.models ⊆ models →
    EachReference P models schema (schema.render components inModel hint scope).1
  | .array nullable items, hP, scope, hmodels => by
    refine ⟨(items.render components inModel (hint ++ "Item") scope).1, ?_,
      eachReference_render inModel (hint ++ "Item") items hP scope hmodels⟩
    rw [render, TypeExpr.items?_orNoneIf, TypeExpr.items?]
  | .object nullable [], _, scope, _ => .inl rfl
  | .object nullable (property :: rest), hP, scope, hmodels => by
    rw [render] at hmodels ⊢
    exact .inr ⟨_, hmodels (List.mem_append_right _ (List.mem_singleton_self _)),
      TypeExpr.name?_orNoneIf nullable _,
      eachField_renderFields (scope.claim hint).1 (property :: rest) hP _ _
        fun model hmodel ↦ hmodels (List.mem_append_left _ hmodel)⟩
  | .ref nullable component, hP, scope, _ => by
    rw [EachReference, render, TypeExpr.name?_orNoneIf]
    exact hP component (List.mem_singleton_self _) inModel
  | .string .., _, _, _ | .number .., _, _, _ | .boolean _, _, _, _ | .enumeration .., _, _, _
  | .unknown _, _, _, _ => trivial
termination_by structural schema => schema
theorem eachField_renderFields (className : String) :
    (properties : List (String × Bool × Schema)) →
    (∀ component ∈ referencesOfAll properties, ∀ inModel,
      P component (componentType (components inModel component)).name?) →
    (names : List (String × String)) → (scope : ModelScope) →
    (renderFields components className properties names scope).2.models ⊆ models →
    EachField P models properties
      (renderFields components className properties names scope).1
  | [], _, _, _, _ => trivial
  | (property, required, schema) :: rest, hP, names, scope, hmodels => by
    let rendered := schema.render components true (className ++ Naming.pascal property) scope
    have hrest : (renderFields components className rest names.tail rendered.2).2.models ⊆ models :=
      hmodels
    have hschema : rendered.2.models ⊆ models := fun model hmodel ↦
      hrest ((renderFields_extends className rest names.tail rendered.2).mem_models hmodel)
    refine ⟨rfl, ?_, eachField_renderFields className rest
      (fun component hcomponent ↦ hP component (List.mem_append_right _ hcomponent))
      names.tail rendered.2 hrest⟩
    rw [eachReference_orNoneIf]
    exact eachReference_render true _ schema
      (fun component hcomponent ↦ hP component (List.mem_append_left _ hcomponent)) scope hschema
termination_by structural properties => properties
end

theorem referencesOfAll_properties_subset (schema : Schema) :
    referencesOfAll schema.properties ⊆ schema.references := by
  cases schema with
  | object => exact List.Subset.refl _
  | _ => exact List.nil_subset _

end Schema

namespace Package

open Document.Sample (listOf object ref typed)
open Schema (EachField EachReference)

variable {P : String → Option String → Prop} {components : ComponentNames} {models : List Model}
  {inputs : Named String} {scope final : ModelScope}

/-! ## Inputs and responses of a router -/

/-- Every input of a router has a model, under the class name that its name stands for, in which its
references are written. -/
theorem exists_eachField_of_hoistInputs {schemas : Named Schema} {name : String} {schema : Schema}
    (hP : ∀ component ∈ schema.references, ∀ inModel,
      P component (componentType (components inModel component)).name?)
    (h : schemas.find? name = some schema) (scope : ModelScope)
    (hmodels : (hoistInputs components schemas scope).2.models ⊆ models) :
    ∃ model ∈ models, (hoistInputs components schemas scope).1.find? name = some model.name ∧
      EachField P models schema.properties model.fields := by
  obtain ⟨start, hfound, hextends⟩ := exists_hoist_of_hoistInputs components h scope
  have hhoisted : (schema.hoist components name start).2.models ⊆ models := fun model hmodel ↦
    hmodels (hextends.mem_models hmodel)
  have hfields := Schema.eachField_renderFields (start.claim name).1 schema.properties
    (fun component hcomponent ↦ hP component (schema.referencesOfAll_properties_subset hcomponent))
    (Model.fieldNames (schema.properties.map Prod.fst) (start.claim name).2.taken)
    (start.claim name).2 fun model hmodel ↦ hhoisted (List.mem_append_left _ hmodel)
  exact ⟨_, hhoisted (List.mem_append_right _ (List.mem_singleton_self _)), hfound, hfields⟩

theorem eq_of_endpointOf {response : TypeExpr} {p : Procedure} {rendered : Endpoint × ClientMethod}
    (h : (endpointOf scope inputs response p).outcome = .ok rendered) :
    rendered.1.response = response ∧ inputs.find? p.inputModel = some rendered.1.inputModel := by
  rw [endpointOf, Report.outcome_bind_eq_ok] at h
  obtain ⟨inputModel, hinput, h⟩ := h
  split at h
  all_goals
    simp only [Report.outcome_bind_eq_ok] at h
    obtain ⟨_, _, _, _, h⟩ := h
    cases h
    exact ⟨rfl, find?_of_require hinput⟩

/-- Every procedure of a router has the input of its name and a response in which references are
written. -/
theorem eachReference_of_endpointsOf {procedures : List Procedure}
    {rendered : List (Endpoint × ClientMethod)}
    (hP : ∀ p ∈ procedures, ∀ component ∈ p.route.response.references, ∀ inModel,
      P component (componentType (components inModel component)).name?)
    (h : (endpointsOf components inputs procedures scope).outcome = .ok (rendered, final)) :
    List.Forall₂ (fun p endpoint ↦ inputs.find? p.inputModel = some endpoint.inputModel ∧
      EachReference P final.models p.route.response endpoint.response)
      procedures (rendered.map Prod.fst) := by
  obtain ⟨-, hforall⟩ := forall₂_of_endpointsOf h
  rw [List.forall₂_map_right_iff, List.forall₂_iff_zip]
  refine ⟨hforall.length_eq, fun {p pair} hpair ↦ ?_⟩
  obtain ⟨start, hextends, hendpoint⟩ := (List.forall₂_iff_zip.mp hforall).2 hpair
  obtain ⟨hresponse, hinput⟩ := eq_of_endpointOf hendpoint
  refine ⟨hinput, ?_⟩
  rw [hresponse]
  exact Schema.eachReference_render false _ p.route.response (hP p (List.of_mem_zip hpair).1) start
    fun model hmodel ↦ hextends.mem_models hmodel

/-- A router module in which every reference of the inputs and the responses of a router is written
by a name that suits the component. -/
structure RouterContext.HasReferences (P : String → Option String → Prop) (router : Router)
    (rendered : RouterContext) : Prop where
  inputs : ∀ entry ∈ router.schemas, ∃ model ∈ rendered.models,
    EachField P rendered.models entry.2.properties model.fields ∧
      ∀ pair ∈ router.procedures.zip rendered.endpoints,
        pair.1.inputModel = entry.1 → pair.2.inputModel = model.name
  responses : List.Forall₂ (fun p endpoint ↦
    EachReference P rendered.models p.route.response endpoint.response)
    router.procedures rendered.endpoints

theorem hasReferences_of_routerContext {known : List String} {names : Named String}
    {router : Router} {rendered : RouterContext} (hclosed : router.IsClosed known)
    (hP : ∀ component ∈ known, ∀ inModel,
      P component (componentType (qualifiedComponents names inModel component)).name?)
    (h : (routerContext names router).outcome = .ok rendered) :
    rendered.HasReferences P router := by
  rw [routerContext_eq, Report.outcome_bind_eq_ok] at h
  obtain ⟨⟨endpoints, final⟩, hendpoints, h⟩ := h
  cases h
  obtain ⟨hextends, -⟩ := forall₂_of_endpointsOf hendpoints
  have hpairs := eachReference_of_endpointsOf
    (fun p hp component hcomponent ↦ hP component (hclosed.responses p hp hcomponent)) hendpoints
  constructor
  · rintro ⟨name, schema⟩ hentry
    obtain ⟨model, hmodel, hfound, hfields⟩ := exists_eachField_of_hoistInputs
      (fun component hcomponent ↦ hP component (hclosed.schemas _ hentry hcomponent))
      (Named.find?_of_mem hclosed.schemas_nodup hentry) _ fun _ hmodel ↦ hextends.mem_models hmodel
    refine ⟨model, hmodel, hfields, fun pair hpair hname ↦ ?_⟩
    obtain ⟨hinput, -⟩ := (List.forall₂_iff_zip.mp hpairs).2 hpair
    rw [hname, hfound] at hinput
    exact (Option.some.inj hinput).symm
  · exact hpairs.imp fun _ _ hpair ↦ hpair.2

/-! ## Both modules -/

/-- A name by which a router module refers to a component: the qualified name of what the module of
components defines, once, for this component and for no other one. -/
structure IsReferenceTo (table : SchemaTable) (components : ComponentModule) (component : String)
    (expression : Option String) : Prop where
  expression_eq : expression = some ("schemas." ++ nameIn table component)
  find?_classNames :
    (classNames (Named.names table)).find? component = some (nameIn table component)
  count_eq : components.definedNames.count (nameIn table component) = 1
  exists_entry : ∃ schema, (component, schema) ∈ table ∧ components.Defines table
    (classNames (Named.names table)) (nameIn table component) (component, schema)
  eq_of_nameIn_eq : ∀ other ∈ Named.names table,
    nameIn table other = nameIn table component → other = component

/-- The expression for a component of the table refers to what the module defines for it. -/
theorem isReferenceTo_of_mem {table : SchemaTable} (hnodup : (Named.names table).Nodup)
    {component : String} (h : component ∈ Named.names table) (inModel : Bool) :
    IsReferenceTo table (moduleOf table) component (componentType
      (qualifiedComponents (classNames (Named.names table)) inModel component)).name? := by
  obtain ⟨⟨component, schema⟩, hentry, rfl⟩ := List.mem_map.mp h
  have hfound := find?_classNames h
  have hdefines := componentModule_defines (classNames (Named.names table)) hentry
  refine ⟨?_, hfound, ?_, ⟨schema, hentry, hdefines⟩, fun other hother ↦ nameIn_inj hother h⟩
  · rw [qualifiedComponents, hfound, Option.map_some, componentType, if_neg (by simp),
      TypeExpr.name?]
  · exact List.count_eq_one_of_mem (definedNames_nodup hnodup)
      (mem_definedNames_of_defines hdefines)

/-- Every reference in an input or a response of a compiled document, at any depth, names a
component of the table, and the module of its router writes it by the qualified name that the module
of components defines once, for that component. -/
theorem hasReferences_of_contextOf {document : Value} {overrides : Overrides}
    {compilation : Compilation} {apiName sourceUrl title : String} {context : Context}
    (h : (Compilation.ofDocument document overrides).outcome = .ok compilation)
    (hcontext : (contextOf compilation apiName sourceUrl title).outcome = .ok context) :
    List.Forall₂ (fun router rendered ↦
        rendered.HasReferences (IsReferenceTo compilation.table context.components) router)
      compilation.registry context.routers := by
  have hcomponents : context.components = moduleOf compilation.table := by
    obtain ⟨-, routers, -, rfl⟩ := exists_routerContexts_of_contextOf hcontext
    rfl
  have hnodup := Compilation.names_table_nodup h
  have hwritten := forall₂_routerContext_of_contextOf hcontext
  refine List.forall₂_iff_zip.mpr ⟨hwritten.length_eq, fun {router rendered} hpair ↦ ?_⟩
  rw [hcomponents]
  exact hasReferences_of_routerContext
    (Compilation.isClosed_of_mem h (List.of_mem_zip hpair).1)
    (fun component hcomponent inModel ↦ isReferenceTo_of_mem hnodup hcomponent inModel)
    ((List.forall₂_iff_zip.mp hwritten).2 hpair)

/-- A document with two components whose names give rise to one class name, and with references to
them, and to a component that is missing, inside a body and a response. -/
def nestedReferencesDocument : Value :=
  let content (schema : Value) := object [("content", Document.jsonContent schema)]
  let nullableRef :=
    object [("$ref", .text "#/components/schemas/a_b"), ("nullable", .bool true)]
  let response := object [("properties", object [
    ("first", ref "a.b"), ("rest", listOf (ref "a_b")), ("gone", ref "c")])]
  object [
    ("components", object [("schemas", object [
      ("a.b", object [("properties", object [("x", typed "string")])]),
      ("a_b", listOf (ref "a.b"))])]),
    ("paths", object [("/r", object [("post", object [
      ("requestBody", content (listOf nullableRef)),
      ("responses", object [("200", content response)])])])])]

/-- The references are written by the names that the module of components defines, the class before
the alias; what refers to no component admits anything. -/
theorem nestedReferencesDocument_hasReferences :
    ∃ compilation context,
      (Compilation.ofDocument nestedReferencesDocument []).outcome = .ok compilation ∧
      (contextOf compilation "Api" "" "").outcome = .ok context ∧
      List.Forall₂ (fun router rendered ↦
          rendered.HasReferences (IsReferenceTo compilation.table context.components) router)
        compilation.registry context.routers ∧
      compilation.table.map (fun entry ↦ (entry.1, nameIn compilation.table entry.1)) =
        [("a.b", "AB"), ("a_b", "AB2")] ∧
      (context.routers.flatMap RouterContext.models).map
          (fun model ↦ (model.name, model.fields.map fun f ↦ (f.property, f.type.text))) =
        [("RCreateInput", [("data", "list[Optional[schemas.AB2]]")]),
          ("RCreateResponse", [("first", "Optional[schemas.AB]"),
            ("rest", "Optional[list[schemas.AB2]]"), ("gone", "Any")])] := by
  obtain ⟨compilation, h, context, hcontext, htable, hmodels⟩ : ∃ compilation,
      (Compilation.ofDocument nestedReferencesDocument []).outcome = .ok compilation ∧
      ∃ context, (contextOf compilation "Api" "" "").outcome = .ok context ∧
      compilation.table.map (fun entry ↦ (entry.1, nameIn compilation.table entry.1)) =
        [("a.b", "AB"), ("a_b", "AB2")] ∧
      (context.routers.flatMap RouterContext.models).map
          (fun model ↦ (model.name, model.fields.map fun f ↦ (f.property, f.type.text))) =
        [("RCreateInput", [("data", "list[Optional[schemas.AB2]]")]),
          ("RCreateResponse", [("first", "Optional[schemas.AB]"),
            ("rest", "Optional[list[schemas.AB2]]"), ("gone", "Any")])] := by
    decide +kernel
  exact ⟨compilation, context, h, hcontext, hasReferences_of_contextOf h hcontext, htable, hmodels⟩

end Package

end ApiCompiler
