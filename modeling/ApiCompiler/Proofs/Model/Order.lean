import ApiCompiler.Proofs.Model.Annotation

/-!
# The order of models

A class body is evaluated from top to bottom, so a model can only refer to models that stand before
it. Rendering adds the models for the objects inside a schema before the one for the schema itself,
and an annotation names a model only after that is complete. What an annotation mentions besides is
the expression for a component that its schema refers to.
-/

namespace ApiCompiler

namespace Schema

/-- The schema of the elements of an array, of their elements, and so on. -/
def element : Schema → Schema
  | .array _ items => items.element
  | schema => schema

mutual
/-- The properties of the objects for which rendering makes models, in the order of the models. -/
def hoisted : Schema → List Properties
  | .array _ items => items.hoisted
  | .object _ [] => []
  | .object _ (property :: rest) => hoistedOfAll (property :: rest) ++ [property :: rest]
  | _ => []
termination_by structural schema => schema
/-- The properties of the objects for which rendering the fields of a model makes models. -/
def hoistedOfAll : List (String × Bool × Schema) → List Properties
  | [] => []
  | (_, _, schema) :: rest => schema.hoisted ++ hoistedOfAll rest
termination_by structural properties => properties
end

/-- An annotation of a schema that mentions a model for an object with properties, and the
expression for a component for a reference; else it mentions nothing. -/
def IsAnnotatedBy (components : ComponentNames) (inModel : Bool) (models : List Model)
    (schema : Schema) (type : TypeExpr) : Prop :=
  match schema.element with
  | .object _ (property :: rest) => ∃ model ∈ models,
    model.HasFieldsFor (Named.names (property :: rest)) ∧ type.mentioned = [model.name]
  | .ref _ component => type.mentioned ⊆ (components inModel component).toList
  | _ => type.mentioned = []

end Schema

/-- A model of properties whose annotations mention earlier models only. -/
structure Model.IsMadeOf (components : ComponentNames) (earlier : List Model)
    (properties : Properties) (model : Model) : Prop where
  hasFieldsFor : model.HasFieldsFor properties.names
  annotated : List.Forall₂ (fun property field ↦ field.required = property.2.1 ∧
    property.2.2.IsAnnotatedBy components true earlier field.type) properties model.fields

/-- Models of the given properties, each of which mentions the models before it only. -/
def AreInOrder (components : ComponentNames) (sources : List Properties) (models : List Model) :
    Prop :=
  sources.length = models.length ∧ ∀ i source (model : Model), sources[i]? = some source →
    models[i]? = some model → model.IsMadeOf components (models.take i) source

variable {components : ComponentNames} {sources : List Properties} {models : List Model}

theorem AreInOrder.append_nil (h : AreInOrder components sources models) :
    AreInOrder components (sources ++ []) models := by
  rwa [List.append_nil]

/-- A model whose annotations mention the models so far can stand after them. -/
theorem AreInOrder.concat (h : AreInOrder components sources models) {properties : Properties}
    {model : Model} (hmodel : model.IsMadeOf components models properties) :
    AreInOrder components (sources ++ [properties]) (models ++ [model]) := by
  obtain ⟨hlength, hmade⟩ := h
  constructor
  · simp [hlength]
  · intro i source other hsource hother
    rcases Nat.lt_or_ge i models.length with hi | hi
    · rw [List.getElem?_append_left (hlength ▸ hi)] at hsource
      rw [List.getElem?_append_left hi] at hother
      rw [List.take_append_of_le_length hi.le]
      exact hmade i source other hsource hother
    · have hlast : i = models.length := by
        have hbound := (List.getElem?_eq_some_iff.mp hother).1
        rw [List.length_append, List.length_singleton] at hbound
        omega
      subst hlast
      rw [← hlength, List.getElem?_concat_length, Option.some.injEq] at hsource
      rw [List.getElem?_concat_length, Option.some.injEq] at hother
      rw [← hsource, ← hother, List.take_left]
      exact hmodel

namespace Schema

/-! ## Annotations -/

variable {inModel : Bool} {schema : Schema} {type : TypeExpr}

theorem IsAnnotatedBy.mono (h : schema.IsAnnotatedBy components inModel models type)
    {later : List Model} (hsubset : ∀ model ∈ models, model ∈ later) :
    schema.IsAnnotatedBy components inModel later type := by
  unfold IsAnnotatedBy at h ⊢
  split at h
  · obtain ⟨model, hmodel, hfields⟩ := h
    exact ⟨model, hsubset model hmodel, hfields⟩
  · exact h
  · exact h

/-- What an annotation mentions decides whether it is complete, so that it may be made optional. -/
theorem isAnnotatedBy_congr {other : TypeExpr} (h : other.mentioned = type.mentioned) :
    schema.IsAnnotatedBy components inModel models other ↔
      schema.IsAnnotatedBy components inModel models type := by
  unfold IsAnnotatedBy
  rw [h]

theorem isAnnotatedBy_orNoneIf (condition : Bool) :
    schema.IsAnnotatedBy components inModel models (type.orNoneIf condition) ↔
      schema.IsAnnotatedBy components inModel models type :=
  isAnnotatedBy_congr (TypeExpr.mentioned_orNoneIf condition type)

/-! ## Rendering -/

/-- An annotation of a schema with a scope whose models have stayed in order, and are complete
enough for the annotation. -/
structure IsRenderedInOrder (components : ComponentNames) (inModel : Bool)
    (sources : List Properties) (schema : Schema) (rendered : TypeExpr × ModelScope) : Prop where
  inOrder : AreInOrder components (sources ++ schema.hoisted) rendered.2.models
  annotated : schema.IsAnnotatedBy components inModel rendered.2.models rendered.1

/-- Fields of properties with a scope whose models have stayed in order, and are complete enough for
the fields. -/
structure AreRenderedInOrder (components : ComponentNames) (sources : List Properties)
    (properties : Properties) (rendered : List ModelField × ModelScope) : Prop where
  inOrder : AreInOrder components (sources ++ hoistedOfAll properties) rendered.2.models
  annotated : List.Forall₂ (fun property field ↦ field.required = property.2.1 ∧
    property.2.2.IsAnnotatedBy components true rendered.2.models field.type) properties rendered.1

/-- The model of a schema can stand after the models that its fields give rise to. -/
theorem hoistAs_areInOrder (schema : Schema) {className : String} {scope : ModelScope}
    (h : AreRenderedInOrder components sources schema.properties
      (renderFields components className schema.properties
        (Model.fieldNames (schema.properties.map Prod.fst) scope.taken) scope)) :
    AreInOrder components (sources ++ (hoistedOfAll schema.properties ++ [schema.properties]))
      (schema.hoistAs components className scope).models := by
  rw [← List.append_assoc]
  apply h.inOrder.concat
  constructor
  · exact hasFieldsFor_renderFields components className schema.properties scope.taken scope
  · exact h.annotated

mutual
/-- Rendering a schema keeps the models in order, and the annotation mentions a model that has been
added by then. -/
theorem render_isRenderedInOrder (inModel : Bool) (hint : String) :
    (schema : Schema) → {scope : ModelScope} → {sources : List Properties} →
      AreInOrder components sources scope.models →
      schema.IsRenderedInOrder components inModel sources
        (schema.render components inModel hint scope)
  | .string _ limits, _, _, h => by
    refine ⟨h.append_nil, ?_⟩
    show TypeExpr.mentioned _ = []
    rw [render, TypeExpr.mentioned_orNoneIf]
    split
    · rfl
    · rw [TypeExpr.mentioned_withConstraints]
      rfl
  | .number _ integer bounds, _, _, h => by
    refine ⟨h.append_nil, ?_⟩
    show TypeExpr.mentioned _ = []
    rw [render, TypeExpr.mentioned_orNoneIf, TypeExpr.mentioned_withConstraints]
    cases integer <;> rfl
  | .boolean _, _, _, h => ⟨h.append_nil, TypeExpr.mentioned_orNoneIf ..⟩
  | .enumeration .., _, _, h => ⟨h.append_nil, TypeExpr.mentioned_orNoneIf ..⟩
  | .array _ items, _, _, h => by
    have hitems := render_isRenderedInOrder inModel (hint ++ "Item") items h
    refine ⟨hitems.inOrder, ?_⟩
    rw [render, isAnnotatedBy_orNoneIf]
    exact hitems.annotated
  | .object _ [], _, _, h => ⟨h.append_nil, TypeExpr.mentioned_orNoneIf ..⟩
  | .object nullable (property :: rest), scope, _, h => by
    have hclaimed : AreInOrder components _ (scope.claim hint).2.models := h
    have hfields := renderFields_areRenderedInOrder (scope.claim hint).1 (property :: rest)
      (Model.fieldNames ((property :: rest).map Prod.fst) (scope.claim hint).2.taken) hclaimed
    constructor
    · exact hoistAs_areInOrder (.object nullable (property :: rest)) hfields
    · rw [render, isAnnotatedBy_orNoneIf]
      refine ⟨_, List.mem_append_right _ (List.mem_singleton_self _), ?_, rfl⟩
      exact hasFieldsFor_renderFields components _ (property :: rest) _ _
  | .ref _ component, _, _, h => by
    refine ⟨h.append_nil, ?_⟩
    rw [render, isAnnotatedBy_orNoneIf]
    exact TypeExpr.mentioned_componentType _
  | .unknown _, _, _, h => ⟨h.append_nil, TypeExpr.mentioned_orNoneIf ..⟩
termination_by structural schema => schema
/-- Rendering fields keeps the models in order, and each annotation mentions a model that has been
added by then. -/
theorem renderFields_areRenderedInOrder (className : String) :
    (properties : List (String × Bool × Schema)) → (names : List (String × String)) →
      {scope : ModelScope} → {sources : List Properties} →
      AreInOrder components sources scope.models →
      AreRenderedInOrder components sources properties
        (renderFields components className properties names scope)
  | [], _, _, _, h => ⟨h.append_nil, .nil⟩
  | (property, _, schema) :: rest, names, scope, _, h => by
    have hschema :=
      render_isRenderedInOrder true (className ++ Naming.pascal property) schema h
    have hrest := renderFields_areRenderedInOrder className rest names.tail hschema.inOrder
    constructor
    · rw [hoistedOfAll, ← List.append_assoc]
      exact hrest.inOrder
    · refine .cons ⟨rfl, ?_⟩ hrest.annotated
      -- the models for the later properties come after those for this one
      rw [isAnnotatedBy_orNoneIf]
      apply hschema.annotated.mono
      exact fun _ ↦ (renderFields_extends className rest names.tail _).mem_models
termination_by structural properties => properties
end

theorem hoist_areInOrder (schema : Schema) (name : String) {scope : ModelScope}
    (h : AreInOrder components sources scope.models) :
    AreInOrder components (sources ++ (hoistedOfAll schema.properties ++ [schema.properties]))
      (schema.hoist components name scope).2.models := by
  have hclaimed : AreInOrder components sources (scope.claim name).2.models := h
  apply hoistAs_areInOrder
  exact renderFields_areRenderedInOrder _ schema.properties _ hclaimed

end Schema

end ApiCompiler
