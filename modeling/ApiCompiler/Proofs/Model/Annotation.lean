import ApiCompiler.Proofs.Model.ClassName

/-!
# Annotations

An annotation mentions the classes that rendering its schema has made and the expressions for the
components that its references name; whatever else it is made of belongs to the language. Inside the
classes that it makes, components may be expressed in another way.

Rendering a schema renders the schemas inside it: the items of an array under the annotation of the
list, the properties of an object as the fields of a class that the annotation names. Whatever the
inner schemas give rise to is among the models of the outer one. Its annotations have a literal for
each scalar that the schemas state.
-/

namespace ApiCompiler

/-! ## Names -/

namespace TypeExpr

/-- The expressions that an annotation mentions. -/
def mentioned : TypeExpr → List String
  | constrained base _ => mentioned base
  | list items => mentioned items
  | optional inner => mentioned inner
  | named expression => [expression]
  | _ => []

@[simp] theorem mentioned_orNoneIf (condition : Bool) (a : TypeExpr) :
    (a.orNoneIf condition).mentioned = a.mentioned := by
  unfold orNoneIf orNone
  split
  · split <;> rfl
  · rfl

@[simp] theorem mentioned_withConstraints (base : TypeExpr) (constraints : List Constraint) :
    (withConstraints base constraints).mentioned = base.mentioned := by
  unfold withConstraints
  split <;> rfl

theorem mentioned_componentType (expression : Option String) :
    (componentType expression).mentioned ⊆ expression.toList := by
  unfold componentType
  split
  · exact List.nil_subset _
  · split
    · exact List.nil_subset _
    · exact List.Subset.refl _

end TypeExpr

namespace Schema

variable {components : ComponentNames}

/-- An annotation mentions a class of its module or the expression for a component. -/
theorem exists_of_mem_mentioned (inModel : Bool) {hint expression : String} (schema : Schema)
    {scope : ModelScope}
    (h : expression ∈ (schema.render components inModel hint scope).1.mentioned) :
    expression ∈ (schema.render components inModel hint scope).2.models.map Model.name ∨
      ∃ component, components inModel component = some expression := by
  cases schema with
  | string nullable limits =>
    rw [render] at h
    simp only [TypeExpr.mentioned_orNoneIf] at h
    split at h <;> simp [TypeExpr.mentioned] at h
  | number nullable integer bounds =>
    rw [render] at h
    simp only [TypeExpr.mentioned_orNoneIf, TypeExpr.mentioned_withConstraints] at h
    split at h <;> simp [TypeExpr.mentioned] at h
  | boolean nullable => simp [render, TypeExpr.mentioned] at h
  | enumeration nullable values => simp [render, TypeExpr.mentioned] at h
  | array nullable items =>
    simp only [render, TypeExpr.mentioned_orNoneIf] at h ⊢
    exact exists_of_mem_mentioned inModel items h
  | object nullable properties =>
    cases properties with
    | nil => simp [render, TypeExpr.mentioned] at h
    | cons property rest =>
      simp only [render, TypeExpr.mentioned_orNoneIf, TypeExpr.mentioned, List.mem_singleton] at h
      simp [render, h, ModelScope.push]
  | ref nullable name =>
    simp only [render, TypeExpr.mentioned_orNoneIf] at h
    exact .inr ⟨name, Option.mem_toList.mp (TypeExpr.mentioned_componentType _ h)⟩
  | unknown nullable => simp [render, TypeExpr.mentioned] at h

end Schema

/-! ## Inner annotations -/

namespace TypeExpr

/-- The annotation of the items, for the annotation of a list. -/
def items? : TypeExpr → Option TypeExpr
  | list items => some items
  | optional (list items) => some items
  | _ => none

/-- The name that an annotation consists of. -/
def name? : TypeExpr → Option String
  | named expression => some expression
  | optional (named expression) => some expression
  | _ => none

theorem items?_orNoneIf (condition : Bool) (a : TypeExpr) :
    (a.orNoneIf condition).items? = a.items? := by
  unfold orNoneIf orNone
  split
  · cases a with
    | named expression => split <;> rfl
    | _ => rfl
  · rfl

theorem name?_orNoneIf (condition : Bool) (a : TypeExpr) :
    (a.orNoneIf condition).name? = a.name? := by
  unfold orNoneIf orNone
  split
  · cases a with
    | named expression => split <;> rfl
    | _ => rfl
  · rfl

theorem admitsNone_orNoneIf (condition : Bool) (a : TypeExpr) :
    (a.orNoneIf condition).admitsNone = (a.admitsNone || condition) := by
  unfold orNoneIf orNone
  cases condition with
  | false => simp
  | true =>
    cases h : a.admitsNone with
    | true => simp [h]
    | false => simp [admitsNone]

end TypeExpr

namespace Schema

variable {components : ComponentNames} {inModel condition : Bool} {models : List Model}
  {type inner : TypeExpr}

/-- An annotation that rendering gives a schema, whose models are among some models. -/
def IsRendered (components : ComponentNames) (inModel : Bool) (models : List Model)
    (schema : Schema) (condition : Bool) (type : TypeExpr) : Prop :=
  ∃ hint scope, type = (schema.render components inModel hint scope).1.orNoneIf condition ∧
    (schema.render components inModel hint scope).2.models ⊆ models

/-- A model whose fields have the annotations that rendering gives the schemas of properties; where
a value need not be given, it may be absent. -/
def RendersFields (components : ComponentNames) (models : List Model)
    (properties : List (String × Bool × Schema)) (model : Model) : Prop :=
  ∀ pair ∈ properties.zip model.fields,
    IsRendered components true models pair.1.2.2 (!pair.1.2.1) pair.2.type

theorem IsRendered.of_subset {others : List Model} {schema : Schema}
    (h : IsRendered components inModel models schema condition type)
    (hsubset : ∀ model ∈ models, model ∈ others) :
    IsRendered components inModel others schema condition type := by
  obtain ⟨hint, scope, htype, hmodels⟩ := h
  exact ⟨hint, scope, htype, fun model hmodel ↦ hsubset model (hmodels hmodel)⟩

/-- The annotation of an array has that of its items inside. -/
theorem IsRendered.items {nullable : Bool} {items : Schema}
    (h : IsRendered components inModel models (.array nullable items) condition type)
    (hinner : type.items? = some inner) :
    IsRendered components inModel models items false inner := by
  obtain ⟨hint, scope, rfl, hmodels⟩ := h
  rw [render, TypeExpr.items?_orNoneIf, TypeExpr.items?_orNoneIf, TypeExpr.items?,
    Option.some.injEq] at hinner
  exact ⟨hint ++ "Item", scope, hinner.symm, hmodels⟩

theorem rendersFields_renderFields {className : String}
    {properties : List (String × Bool × Schema)} {names : List (String × String)}
    {scope : ModelScope}
    (h : (renderFields components className properties names scope).2.models ⊆ models) :
    ∀ pair ∈ properties.zip (renderFields components className properties names scope).1,
      IsRendered components true models pair.1.2.2 (!pair.1.2.1) pair.2.type := by
  induction properties generalizing names scope with
  | nil => simp
  | cons property rest ih =>
    obtain ⟨property, required, schema⟩ := property
    let rendered := schema.render components true (className ++ Naming.pascal property) scope
    have hrest : (renderFields components className rest names.tail rendered.2).2.models ⊆
        models := h
    intro pair hpair
    rw [renderFields, List.zip_cons_cons] at hpair
    rcases List.mem_cons.mp hpair with rfl | hpair
    · refine ⟨className ++ Naming.pascal property, scope, rfl, fun model hmodel ↦ hrest ?_⟩
      exact (renderFields_extends className rest names.tail rendered.2).mem_models hmodel
    · exact ih hrest pair hpair

/-- The annotation of an object with properties names a model with a field for each of them. -/
theorem IsRendered.exists_model {nullable : Bool} {properties : List (String × Bool × Schema)}
    {name : String}
    (h : IsRendered components inModel models (.object nullable properties) condition type)
    (hname : type.name? = some name) :
    ∃ model ∈ models, model.name = name ∧ RendersFields components models properties model := by
  obtain ⟨hint, scope, rfl, hmodels⟩ := h
  rw [TypeExpr.name?_orNoneIf] at hname
  cases properties with
  | nil =>
    rw [render, TypeExpr.name?_orNoneIf] at hname
    cases hname
  | cons property rest =>
    rw [render, TypeExpr.name?_orNoneIf, TypeExpr.name?, Option.some.injEq] at hname
    rw [render] at hmodels
    refine ⟨_, hmodels (List.mem_append_right _ (List.mem_singleton_self _)), hname, ?_⟩
    exact rendersFields_renderFields fun model hmodel ↦ hmodels (List.mem_append_left _ hmodel)

end Schema

/-! ## Parts of annotations -/

/-- The keywords of constraints. -/
def constraintKeywords : List String :=
  ["min_length", "max_length", "pattern", "ge", "le", "gt", "lt"]

namespace TypeExpr

/-- The scalars that an annotation has literals of. -/
def scalars : TypeExpr → List Scalar
  | constrained base constraints => base.scalars ++ constraints.map Constraint.value
  | choice values => values
  | list items => items.scalars
  | optional inner => inner.scalars
  | _ => []

/-- An annotation in which only the types of texts and of numbers have constraints, each with a
keyword for one. Some property has to hold of the expressions that it mentions. -/
inductive HasShape (holds : String → Prop) : TypeExpr → Prop
  | any : HasShape holds any
  | string : HasShape holds string
  | integer : HasShape holds integer
  | float : HasShape holds float
  | boolean : HasShape holds boolean
  | dateTime : HasShape holds dateTime
  | dictionary : HasShape holds dictionary
  | constrained (base : TypeExpr) (constraints : List Constraint)
      (isBase : base ∈ [.string, .integer, .float]) (ne_nil : constraints ≠ [])
      (keywords : ∀ c ∈ constraints, c.keyword ∈ constraintKeywords) :
      HasShape holds (constrained base constraints)
  | choice (values : List Scalar) : HasShape holds (choice values)
  | list {items : TypeExpr} (h : HasShape holds items) : HasShape holds (list items)
  | optional {inner : TypeExpr} (h : HasShape holds inner) : HasShape holds (optional inner)
  | named {expression : String} (h : holds expression) : HasShape holds (named expression)

variable {holds other : String → Prop} {a : TypeExpr}

theorem HasShape.mono (h : a.HasShape holds) (himp : ∀ e, holds e → other e) :
    a.HasShape other := by
  induction h with
  | constrained base constraints isBase ne_nil keywords =>
    exact .constrained base constraints isBase ne_nil keywords
  | choice values => exact .choice values
  | list _ ih => exact ih.list
  | optional _ ih => exact ih.optional
  | named h => exact .named (himp _ h)
  | _ => constructor

theorem HasShape.orNoneIf (h : a.HasShape holds) (condition : Bool) :
    (a.orNoneIf condition).HasShape holds := by
  unfold TypeExpr.orNoneIf orNone
  split_ifs
  · exact h
  · exact h.optional
  · exact h

theorem HasShape.withConstraints (h : a.HasShape holds) (isBase : a ∈ [.string, .integer, .float])
    {constraints : List Constraint} (keywords : ∀ c ∈ constraints, c.keyword ∈ constraintKeywords) :
    (a.withConstraints constraints).HasShape holds := by
  unfold TypeExpr.withConstraints
  split
  · exact h
  · next hne => exact .constrained a constraints isBase (by simpa using hne) keywords

theorem hasShape_componentType {expression : Option String} (h : ∀ e ∈ expression, holds e) :
    (componentType expression).HasShape holds := by
  unfold componentType
  split
  · exact .any
  · split
    · exact .any
    · exact .named (h _ rfl)

theorem scalars_orNoneIf (condition : Bool) (a : TypeExpr) :
    (a.orNoneIf condition).scalars = a.scalars := by
  unfold orNoneIf orNone
  split
  · split <;> rfl
  · rfl

theorem scalars_withConstraints (base : TypeExpr) (constraints : List Constraint) :
    (withConstraints base constraints).scalars =
      base.scalars ++ constraints.map Constraint.value := by
  unfold withConstraints
  split
  · next hnil => rw [List.isEmpty_iff.mp hnil, List.map_nil, List.append_nil]
  · rfl

theorem scalars_componentType (expression : Option String) :
    (componentType expression).scalars = [] := by
  unfold componentType
  split
  · rfl
  · split <;> rfl

end TypeExpr

/-- The scalars that an optional bound states. -/
def boundScalars (bound : Option Number) : List Scalar :=
  (bound.map Scalar.number).toList

/-- The scalars that a range states. -/
def Bounds.scalars (b : Bounds) : List Scalar :=
  [b.minimum, b.maximum, b.exclusiveMinimum, b.exclusiveMaximum].flatMap boundScalars

/-- The scalars that the constraints of a string state. A date with a time has none, and a pattern
counts inside a model only. -/
def StringLimits.scalars (inModel : Bool) (l : StringLimits) : List Scalar :=
  if l.dateTime then []
  else
    [l.minLength, l.maxLength].flatMap (fun length ↦ boundScalars (length.map (.int ·))) ++
      if inModel then (l.pattern.map Scalar.text).toList else []

theorem map_value_boundConstraint (keyword : String) (bound : Option Number) :
    (boundConstraint keyword bound).map Constraint.value = boundScalars bound := by
  cases bound <;> rfl

theorem Bounds.map_value_constraints (b : Bounds) :
    b.constraints.map Constraint.value = b.scalars := by
  simp [constraints, scalars, map_value_boundConstraint]

theorem StringLimits.map_value_constraints {l : StringLimits} (h : l.dateTime = false)
    (inModel : Bool) : (l.constraints inModel).map Constraint.value = l.scalars inModel := by
  have hlength (keyword : String) (length : Option Nat) :
      (lengthConstraint keyword length).map Constraint.value =
        boundScalars (length.map (.int ·)) := by
    cases length <;> rfl
  have hpattern :
      (if inModel then (l.pattern.map fun p ↦ Constraint.mk "pattern" (.text p)).toList
        else []).map Constraint.value =
          if inModel then (l.pattern.map Scalar.text).toList else [] := by
    cases inModel with
    | false => rfl
    | true => cases l.pattern <;> rfl
  simp [constraints, scalars, h, hlength, hpattern]

theorem keyword_mem_of_mem_boundConstraint {keyword : String} (h : keyword ∈ constraintKeywords)
    {bound : Option Number} : ∀ c ∈ boundConstraint keyword bound,
      c.keyword ∈ constraintKeywords := by
  cases bound with
  | none => exact nofun
  | some n => exact List.forall_mem_singleton.mpr h

theorem Bounds.keyword_mem_of_mem_constraints (b : Bounds) :
    ∀ c ∈ b.constraints, c.keyword ∈ constraintKeywords := by
  simp only [constraints, List.forall_mem_append]
  refine ⟨⟨⟨?_, ?_⟩, ?_⟩, ?_⟩
  all_goals exact keyword_mem_of_mem_boundConstraint (by decide)

theorem StringLimits.keyword_mem_of_mem_constraints (inModel : Bool) (l : StringLimits) :
    ∀ c ∈ l.constraints inModel, c.keyword ∈ constraintKeywords := by
  have hlength {keyword : String} (hkeyword : keyword ∈ constraintKeywords) (length : Option Nat) :
      ∀ c ∈ lengthConstraint keyword length, c.keyword ∈ constraintKeywords := by
    cases length with
    | none => exact nofun
    | some n => exact List.forall_mem_singleton.mpr hkeyword
  simp only [constraints, List.forall_mem_append]
  refine ⟨⟨hlength (by decide) _, hlength (by decide) _⟩, ?_⟩
  split
  · cases l.pattern with
    | none => exact nofun
    | some p =>
      have hkeyword : "pattern" ∈ constraintKeywords := by decide
      exact List.forall_mem_singleton.mpr hkeyword
  · exact nofun

theorem StringLimits.hasShape {holds : String → Prop} (inModel : Bool) (l : StringLimits) :
    (TypeExpr.string.withConstraints (l.constraints inModel)).HasShape holds :=
  TypeExpr.HasShape.string.withConstraints (by simp) (l.keyword_mem_of_mem_constraints inModel)

theorem Bounds.hasShape {holds : String → Prop} (integer : Bool) (b : Bounds) :
    (TypeExpr.withConstraints (if integer then .integer else .float) b.constraints).HasShape
      holds := by
  refine TypeExpr.HasShape.withConstraints ?_ ?_ b.keyword_mem_of_mem_constraints
  · split
    · exact .integer
    · exact .float
  · split <;> simp

namespace Schema

mutual
/-- The scalars that a schema states, in whichever notation: the bounds of its ranges and the values
that it lists. -/
def scalars (inModel : Bool) : Schema → List Scalar
  | .string _ limits => limits.scalars inModel
  | .number _ _ bounds => bounds.scalars
  | .enumeration _ values => values
  | .array _ items => items.scalars inModel
  | .object _ properties => scalarsOfAll properties
  | _ => []
termination_by structural schema => schema
/-- The scalars that the schemas of properties state. -/
def scalarsOfAll : List (String × Bool × Schema) → List Scalar
  | [] => []
  | (_, _, schema) :: rest => schema.scalars true ++ scalarsOfAll rest
termination_by structural properties => properties
end

end Schema

/-- The annotations of a model. -/
def Model.types (model : Model) : List TypeExpr :=
  model.fields.map ModelField.type

/-- An expression that is the name of a model or stands for a component. -/
inductive IsNameFor (components : ComponentNames) (models : List Model) (expression : String) :
    Prop
  | model (isIdentifier : Text.isIdentifier expression = true)
      (mem : expression ∈ models.map Model.name)
  | component (inModel : Bool) (component : String)
      (found : components inModel component = some expression)

theorem IsNameFor.append {components : ComponentNames} {models : List Model} {expression : String}
    (h : IsNameFor components models expression) (added : List Model) :
    IsNameFor components (models ++ added) expression := by
  cases h with
  | model isIdentifier mem =>
    refine .model isIdentifier ?_
    rw [List.map_append]
    exact List.mem_append_left _ mem
  | component inModel component found => exact .component inModel component found

/-- A scope that models have been added to. Their annotations and some other ones have the shape of
annotations, mention models or components only, and have literals for some scalars. -/
def ModelScope.Yields (components : ComponentNames) (types : List TypeExpr)
    (scalars : List Scalar) (scope final : ModelScope) : Prop :=
  ∃ added, final.models = scope.models ++ added ∧
    (∀ type ∈ types ++ added.flatMap Model.types,
      type.HasShape (IsNameFor components final.models)) ∧
    ((types ++ added.flatMap Model.types).flatMap TypeExpr.scalars).Perm scalars

namespace ModelScope

variable {components : ComponentNames} {types others : List TypeExpr}
  {scalars more : List Scalar} {scope middle final : ModelScope} {type : TypeExpr}

/-- An annotation without a model. -/
theorem yields_type (hshape : type.HasShape (IsNameFor components scope.models))
    (hscalars : type.scalars = scalars) : Yields components [type] scalars scope scope := by
  refine ⟨[], (List.append_nil _).symm, ?_, ?_⟩
  · simpa using hshape
  · simp [hscalars]

theorem Yields.of_models (h : Yields components types scalars middle final)
    (hmodels : middle.models = scope.models) : Yields components types scalars scope final := by
  unfold Yields at h ⊢
  rwa [hmodels] at h

/-- What has been yielded stays when further models are added. -/
theorem Yields.append (h : Yields components types scalars scope middle)
    (h' : Yields components others more middle final) :
    Yields components (types ++ others) (scalars ++ more) scope final := by
  obtain ⟨added, hadded, hshape, hscalars⟩ := h
  obtain ⟨added', hadded', hshape', hscalars'⟩ := h'
  have hperm : (types ++ others ++ (added ++ added').flatMap Model.types).Perm
      (types ++ added.flatMap Model.types ++ (others ++ added'.flatMap Model.types)) := by
    rw [List.flatMap_append, List.append_assoc, List.append_assoc]
    refine List.Perm.append_left _ ?_
    rw [← List.append_assoc, ← List.append_assoc]
    exact List.Perm.append_right _ List.perm_append_comm
  refine ⟨added ++ added', by rw [hadded', hadded, List.append_assoc], ?_, ?_⟩
  · intro type htype
    rcases List.mem_append.mp (hperm.mem_iff.mp htype) with htype | htype
    · exact (hshape type htype).mono fun e he ↦ hadded' ▸ he.append added'
    · exact hshape' type htype
  · refine (hperm.flatMap_right _).trans ?_
    rw [List.flatMap_append]
    exact hscalars.append hscalars'

/-- Annotations become those of a model, which has a name. -/
theorem Yields.push (h : Yields components types scalars scope final) {model : Model}
    (hname : Text.isIdentifier model.name = true) (hmodel : model.types = types) :
    Yields components [.named model.name] scalars scope (final.push model) := by
  obtain ⟨added, hadded, hshape, hscalars⟩ := h
  have hperm : ((added ++ [model]).flatMap Model.types).Perm
      (types ++ added.flatMap Model.types) := by
    rw [List.flatMap_append, List.flatMap_singleton, hmodel]
    exact List.perm_append_comm
  refine ⟨added ++ [model], by rw [ModelScope.push, hadded, List.append_assoc], ?_, ?_⟩
  · intro type htype
    rcases List.mem_append.mp htype with htype | htype
    · rw [List.mem_singleton.mp htype]
      refine .named (.model hname ?_)
      rw [ModelScope.push, List.map_append]
      exact List.mem_append_right _ (List.mem_singleton_self _)
    · exact (hshape type (hperm.mem_iff.mp htype)).mono fun e he ↦ he.append [model]
  · exact (hperm.flatMap_right _).trans hscalars

/-- An annotation may be built around another one that has the same scalars. -/
theorem Yields.map (h : Yields components [type] scalars scope final) {outer : TypeExpr}
    (hshape : type.HasShape (IsNameFor components final.models) →
      outer.HasShape (IsNameFor components final.models))
    (hscalars : outer.scalars = type.scalars) :
    Yields components [outer] scalars scope final := by
  obtain ⟨added, hadded, hshapes, hperm⟩ := h
  refine ⟨added, hadded, ?_, ?_⟩
  · obtain ⟨hfirst, hrest⟩ := List.forall_mem_cons.mp hshapes
    exact List.forall_mem_cons.mpr ⟨hshape hfirst, hrest⟩
  · rw [List.singleton_append, List.flatMap_cons, hscalars]
    rwa [List.singleton_append, List.flatMap_cons] at hperm

theorem Yields.orNoneIf (h : Yields components [type] scalars scope final) (condition : Bool) :
    Yields components [type.orNoneIf condition] scalars scope final :=
  h.map (fun hshape ↦ hshape.orNoneIf condition) (TypeExpr.scalars_orNoneIf condition type)

end ModelScope

namespace Schema

open ModelScope (Yields yields_type)

variable {components : ComponentNames}

mutual
/-- Rendering a schema yields an annotation and models with a literal for each scalar that the
schema states. -/
theorem render_yields (inModel : Bool) (hint : String) : (schema : Schema) → (scope : ModelScope) →
    Yields components [(schema.render components inModel hint scope).1] (schema.scalars inModel)
      scope (schema.render components inModel hint scope).2
  | .string nullable limits, scope => by
    rw [render]
    refine (yields_type ?_ ?_).orNoneIf nullable
    · split
      · exact .dateTime
      · exact limits.hasShape inModel
    · rw [scalars]
      split
      · next hdate => rw [StringLimits.scalars, if_pos hdate]; rfl
      · next hdate =>
        rw [TypeExpr.scalars_withConstraints,
          StringLimits.map_value_constraints (Bool.eq_false_iff.mpr hdate)]
        rfl
  | .number nullable integer bounds, scope => by
    rw [render]
    refine (yields_type (bounds.hasShape integer) ?_).orNoneIf nullable
    rw [TypeExpr.scalars_withConstraints, bounds.map_value_constraints, scalars]
    split <;> rfl
  | .boolean nullable, scope => (yields_type .boolean rfl).orNoneIf nullable
  | .enumeration nullable values, scope => (yields_type (.choice values) rfl).orNoneIf nullable
  | .array nullable items, scope => by
    rw [render]
    exact ((render_yields inModel (hint ++ "Item") items scope).map
      (fun hshape ↦ hshape.list) rfl).orNoneIf nullable
  | .object nullable [], scope => (yields_type .dictionary rfl).orNoneIf nullable
  | .object nullable (property :: rest), scope => by
    have hfields := renderFields_yields (scope.claim hint).1 (property :: rest)
      (Model.fieldNames ((property :: rest).map Prod.fst) (scope.claim hint).2.taken)
      (scope.claim hint).2
    have hname := (scope.claim_isUsable hint).isIdentifier
    rw [render, scalars]
    refine Yields.orNoneIf ?_ nullable
    exact Yields.push (hfields.of_models rfl) hname rfl
  | .ref nullable name, scope => by
    rw [render]
    refine (yields_type ?_ (TypeExpr.scalars_componentType _)).orNoneIf nullable
    exact TypeExpr.hasShape_componentType fun e he ↦ .component inModel name he
  | .unknown nullable, scope => (yields_type .any rfl).orNoneIf nullable
termination_by structural schema => schema
/-- Rendering fields yields their annotations. -/
theorem renderFields_yields (className : String) :
    (properties : List (String × Bool × Schema)) → (names : List (String × String)) →
      (scope : ModelScope) →
      Yields components ((renderFields components className properties names scope).1.map
          ModelField.type) (scalarsOfAll properties) scope
        (renderFields components className properties names scope).2
  | [], _, scope => ⟨[], (List.append_nil _).symm, nofun, .nil⟩
  | (property, required, schema) :: rest, names, scope => by
    have hschema := render_yields true (className ++ Naming.pascal property) schema scope
    have hrest := renderFields_yields className rest names.tail
      (schema.render components true (className ++ Naming.pascal property) scope).2
    exact (hschema.orNoneIf (!required)).append hrest
termination_by structural properties => properties
end

end Schema

end ApiCompiler
