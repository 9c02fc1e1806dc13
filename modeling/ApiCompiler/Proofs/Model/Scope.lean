import ApiCompiler.Model
import ApiCompiler.Proofs.Naming.Assigned

/-!
# The models of a generated module

Rendering a schema only adds to a scope: the names it takes were free, and every model that it adds
has one of them. So the classes of a module are distinct, and a model stays the one of its name
whatever is rendered after it.
-/

namespace ApiCompiler

namespace ModelScope

/-- A scope that rendering has made of another one. -/
structure Extends (scope final : ModelScope) : Prop where
  taken_subset : scope.taken ⊆ final.taken
  exists_models : ∃ added, final.models = scope.models ++ added ∧
    (added.map Model.name).Nodup ∧
      ∀ model ∈ added, model.name ∉ scope.taken ∧ model.name ∈ final.taken

variable {scope middle final : ModelScope}

theorem Extends.refl (scope : ModelScope) : scope.Extends scope :=
  ⟨List.Subset.refl _, [], by simp⟩

theorem Extends.trans (h : scope.Extends middle) (h' : middle.Extends final) :
    scope.Extends final := by
  obtain ⟨hsubset, added, hadded, hnodup, hnames⟩ := h
  obtain ⟨hsubset', added', hadded', hnodup', hnames'⟩ := h'
  refine ⟨fun name hname ↦ hsubset' (hsubset hname), added ++ added', ?_, ?_, ?_⟩
  · rw [hadded', hadded, List.append_assoc]
  · rw [List.map_append, List.nodup_append]
    refine ⟨hnodup, hnodup', ?_⟩
    rintro name hfirst _ hsecond rfl
    obtain ⟨model, hmodel, rfl⟩ := List.mem_map.mp hfirst
    obtain ⟨other, hother, hname⟩ := List.mem_map.mp hsecond
    exact (hnames' other hother).1 (hname ▸ (hnames model hmodel).2)
  · intro model hmodel
    rcases List.mem_append.mp hmodel with hmodel | hmodel
    · exact ⟨(hnames model hmodel).1, hsubset' (hnames model hmodel).2⟩
    · exact ⟨fun hname ↦ (hnames' model hmodel).1 (hsubset hname), (hnames' model hmodel).2⟩

/-- The classes of a module are distinct. -/
theorem Extends.names_nodup {reserved : List String}
    (h : (ModelScope.empty reserved).Extends final) : (final.models.map Model.name).Nodup := by
  obtain ⟨_, added, hadded, hnodup, _⟩ := h
  rw [hadded]
  exact hnodup

theorem Extends.mem_models (h : scope.Extends final) {model : Model}
    (hmodel : model ∈ scope.models) : model ∈ final.models := by
  obtain ⟨_, added, hadded, _⟩ := h
  rw [hadded]
  exact List.mem_append_left _ hmodel

theorem claim_not_mem (scope : ModelScope) (name : String) : (scope.claim name).1 ∉ scope.taken :=
  Naming.firstFree_not_mem (Naming.numbered_injective _ _) _

theorem taken_claim (scope : ModelScope) (name : String) :
    (scope.claim name).2.taken = (scope.claim name).1 :: scope.taken :=
  rfl

/-- A model is added under a name that was claimed before its fields were rendered. -/
theorem Extends.push_claimed {name : String}
    (h : (scope.claim name).2.Extends final) (fields : List ModelField) (names : Named String) :
    scope.Extends (final.push ⟨(scope.claim name).1, fields, names⟩) := by
  obtain ⟨hsubset, added, hadded, hnodup, hnames⟩ := h
  rw [taken_claim] at hsubset hnames
  refine ⟨fun other hother ↦ hsubset (List.mem_cons_of_mem _ hother),
    added ++ [⟨(scope.claim name).1, fields, names⟩], ?_, ?_, ?_⟩
  · rw [push, hadded, List.append_assoc]
    rfl
  · rw [List.map_append, List.map_singleton, ← List.concat_eq_append]
    refine hnodup.concat fun hmem ↦ ?_
    obtain ⟨model, hmodel, hname⟩ := List.mem_map.mp hmem
    exact (hnames model hmodel).1 (hname ▸ List.mem_cons_self ..)
  · intro model hmodel
    rcases List.mem_append.mp hmodel with hmodel | hmodel
    · obtain ⟨hfree, htaken⟩ := hnames model hmodel
      exact ⟨fun hname ↦ hfree (List.mem_cons_of_mem _ hname), htaken⟩
    · rw [List.mem_singleton] at hmodel
      rw [hmodel]
      exact ⟨scope.claim_not_mem name, hsubset (List.mem_cons_self ..)⟩

end ModelScope

/-- A model with a field of its own for each of the properties. -/
structure Model.HasFieldsFor (properties : List String) (model : Model) : Prop where
  names_eq : model.names.names = properties
  names_nodup : (model.names.map Prod.snd).Nodup
  fields_eq : model.fields.map (fun f ↦ (f.property, f.name)) = model.names

theorem Model.HasFieldsFor.map_name {properties : List String} {model : Model}
    (h : model.HasFieldsFor properties) :
    model.fields.map ModelField.name = model.names.map Prod.snd := by
  rw [← h.fields_eq, List.map_map]
  rfl

namespace Schema

open ModelScope (Extends)

variable {components : ComponentNames}

mutual
theorem render_extends (inModel : Bool) (hint : String) :
    (schema : Schema) → (scope : ModelScope) →
      scope.Extends (schema.render components inModel hint scope).2
  | .string .., scope => Extends.refl scope
  | .number .., scope => Extends.refl scope
  | .boolean _, scope => Extends.refl scope
  | .enumeration .., scope => Extends.refl scope
  | .array _ items, scope => render_extends inModel (hint ++ "Item") items scope
  | .object _ [], scope => Extends.refl scope
  | .object _ (property :: rest), scope => by
    rw [render]
    exact (renderFields_extends (scope.claim hint).1 (property :: rest) _ _).push_claimed _ _
  | .ref .., scope => Extends.refl scope
  | .unknown _, scope => Extends.refl scope
termination_by structural schema => schema
theorem renderFields_extends (className : String) :
    (properties : List (String × Bool × Schema)) → (names : List (String × String)) →
      (scope : ModelScope) →
      scope.Extends (renderFields components className properties names scope).2
  | [], _, scope => Extends.refl scope
  | (property, _, schema) :: rest, names, scope =>
    (render_extends true (className ++ Naming.pascal property) schema scope).trans
      (renderFields_extends className rest names.tail _)
termination_by structural properties => properties
end

theorem map_renderFields {className : String} {properties : List (String × Bool × Schema)}
    {names : Named String} (hnames : names.names = properties.map Prod.fst) (scope : ModelScope) :
    (renderFields components className properties names scope).1.map
      (fun f ↦ (f.property, f.name)) = names := by
  induction properties generalizing names scope with
  | nil => simpa [Named.names, renderFields] using hnames.symm
  | cons property rest ih =>
    obtain ⟨property, required, schema⟩ := property
    cases names with
    | nil => simp [Named.names] at hnames
    | cons entry others =>
      obtain ⟨key, name⟩ := entry
      rw [Named.names, List.map_cons, List.map_cons, List.cons_eq_cons] at hnames
      obtain ⟨rfl, hothers⟩ := hnames
      rw [renderFields, List.map_cons]
      exact congrArg ((key, name) :: ·) (ih hothers _)

/-- The model of some properties has a field for each of them. -/
theorem hasFieldsFor_renderFields (components : ComponentNames) (className : String)
    (properties : Properties) (reserved : List String) (scope : ModelScope) :
    Model.HasFieldsFor properties.names
      ⟨className,
        (renderFields components className properties
          (Model.fieldNames (properties.map Prod.fst) reserved) scope).1,
        Model.fieldNames (properties.map Prod.fst) reserved⟩ := by
  have hnames := Model.names_fieldNames (properties.map Prod.fst) reserved
  constructor
  · exact hnames
  · exact Model.fieldNames_nodup _ _
  · exact map_renderFields hnames scope

/-- Making a model adds it last, under the class name that is given back, with a field for each
property. -/
theorem exists_model_of_hoist (components : ComponentNames) (schema : Schema) (name : String)
    (scope : ModelScope) :
    ∃ model, (schema.hoist components name scope).2.models.getLast? = some model ∧
      model.name = (schema.hoist components name scope).1 ∧
      model.HasFieldsFor (Named.names schema.properties) :=
  ⟨_, List.getLast?_concat, rfl, hasFieldsFor_renderFields components _ schema.properties _ _⟩

theorem hoist_extends (components : ComponentNames) (schema : Schema) (name : String)
    (scope : ModelScope) :
    scope.Extends (schema.hoist components name scope).2 :=
  (renderFields_extends (scope.claim name).1 schema.properties _ _).push_claimed _ _

end Schema

end ApiCompiler
