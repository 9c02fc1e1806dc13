import ApiCompiler.Proofs.Model.Annotation
import ApiCompiler.Proofs.Package.Components

/-!
# Null behind references

A reference may admit null because of the component that it names. Its annotation then admits the
absent value through the alias of that component, whatever further references lie between, with one
exception: a component that becomes a class loses its flag. So null is lost exactly where a required
schema refers, directly or through aliases that are nothing but references, to such a class.
-/

namespace ApiCompiler.Package

open Naming (IsUsable)
open Schema (IsRendered RendersFields)

variable {table : SchemaTable}

/-! ## Null in schemas and in annotations -/

/-- A schema that admits null: by its flag, because nothing is known about it, or as a reference to
a component that is missing or admits null. -/
inductive AdmitsNull (table : SchemaTable) : Schema → Prop where
  | flag {schema : Schema} (h : schema.nullable = true) : AdmitsNull table schema
  | unknown (nullable : Bool) : AdmitsNull table (.unknown nullable)
  | missing {nullable : Bool} {name : String} (h : Named.find? table name = none) :
      AdmitsNull table (.ref nullable name)
  | component {nullable : Bool} {name : String} {schema : Schema}
      (hfind : Named.find? table name = some schema) (h : AdmitsNull table schema) :
      AdmitsNull table (.ref nullable name)

/-- The text of an annotation that admits the absent value, by itself or as the name of an alias
that does. -/
inductive AdmitsNone (aliases : List Alias) : String → Prop where
  | any : AdmitsNone aliases "Any"
  | optional (rest : String) : AdmitsNone aliases ("Optional[" ++ rest)
  | named {a : Alias} (hmem : a ∈ aliases) (h : AdmitsNone aliases a.type.text) :
      AdmitsNone aliases a.name

/-- A component that is a class, or nothing but a reference without a flag to such a one. -/
inductive StandsForClass (table : SchemaTable) : String → Prop where
  | itself {name : String} {schema : Schema} (hfind : Named.find? table name = some schema)
      (hclass : isClass schema = true) : StandsForClass table name
  | reference {name next : String} (hfind : Named.find? table name = some (.ref false next))
      (h : StandsForClass table next) : StandsForClass table name

/-- A reference without a flag to a class, directly or through other such references. -/
def RefersToClass (table : SchemaTable) (schema : Schema) : Prop :=
  ∃ name, schema = .ref false name ∧ StandsForClass table name

/-- The module of component schemas, under the names that their table gives rise to. -/
def moduleOf (table : SchemaTable) : ComponentModule :=
  componentModule table (classNames (Named.names table))

/-- The name of a component in its module. -/
abbrev nameIn (table : SchemaTable) (component : String) : String :=
  nameOf (classNames (Named.names table)) component

/-- The annotation that the module has for a schema, and whether the value may be left out besides:
of an alias, of a property in the class of a component, of the items of an array, and of a property
in the class of an object that stands in another schema. -/
inductive Annotates (table : SchemaTable) : Schema → Bool → TypeExpr → Prop where
  | component {component : String} {schema : Schema} {a : Alias}
      (hentry : (component, schema) ∈ table) (ha : a ∈ (moduleOf table).aliases)
      (hname : a.name = nameIn table component) :
      Annotates table schema false a.type
  | property {component property : String} {schema inner : Schema} {required : Bool}
      {model : Model} {f : ModelField} (hentry : (component, schema) ∈ table)
      (hmodel : model ∈ (moduleOf table).models) (hname : model.name = nameIn table component)
      (hfield : ((property, required, inner), f) ∈ schema.properties.zip model.fields) :
      Annotates table inner (!required) f.type
  | item {nullable optional : Bool} {items : Schema} {type inner : TypeExpr}
      (h : Annotates table (.array nullable items) optional type)
      (hinner : type.items? = some inner) : Annotates table items false inner
  | inner {nullable optional required : Bool} {properties : List (String × Bool × Schema)}
      {property : String} {inner : Schema} {type : TypeExpr} {model : Model} {f : ModelField}
      (h : Annotates table (.object nullable properties) optional type)
      (hmodel : model ∈ (moduleOf table).models) (hname : type.name? = some model.name)
      (hfield : ((property, required, inner), f) ∈ properties.zip model.fields) :
      Annotates table inner (!required) f.type

theorem AdmitsNone.of_admitsNone {type : TypeExpr} (aliases : List Alias)
    (h : type.admitsNone = true) : AdmitsNone aliases type.text := by
  cases type with
  | any => exact .any
  | optional inner =>
    rw [TypeExpr.text, String.append_assoc]
    exact .optional _
  | named expression =>
    rw [TypeExpr.admitsNone, Bool.or_eq_true, beq_iff_eq, List.isPrefixOf_iff_prefix] at h
    rw [TypeExpr.text]
    rcases h with rfl | ⟨rest, hrest⟩
    · exact .any
    · have htext : expression = "Optional[" ++ String.ofList rest := by
        apply String.toList_inj.mp
        rw [String.toList_append, ← hrest]
        simp
      rw [htext]
      exact .optional _
  | _ => cases h

theorem AdmitsNone.of_orNoneIf (aliases : List Alias) {base : TypeExpr} {nullable optional : Bool}
    (h : (base.admitsNone || nullable || optional) = true) :
    AdmitsNone aliases ((base.orNoneIf nullable).orNoneIf optional).text := by
  apply AdmitsNone.of_admitsNone
  rwa [TypeExpr.admitsNone_orNoneIf, TypeExpr.admitsNone_orNoneIf]

/-- Rendering keeps the flag of a schema. -/
theorem admitsNone_render_of_nullable {components : ComponentNames} {inModel : Bool} {hint : String}
    {schema : Schema} {scope : ModelScope} (h : schema.nullable = true) :
    (schema.render components inModel hint scope).1.admitsNone = true := by
  cases schema with
  | object nullable properties =>
    obtain rfl : nullable = true := h
    cases properties with
    | nil => rw [Schema.render, TypeExpr.admitsNone_orNoneIf, Bool.or_true]
    | cons => rw [Schema.render, TypeExpr.admitsNone_orNoneIf, Bool.or_true]
  | _ =>
    obtain rfl := h
    rw [Schema.render, TypeExpr.admitsNone_orNoneIf, Bool.or_true]

/-! ## References to classes end -/

theorem isClass_of_aliasTarget? {schema : Schema} {target : String}
    (h : aliasTarget? schema = some target) : isClass schema = false := by
  cases schema with
  | object => cases h
  | _ => rfl

/-- What stands for a class is not led back to by an alias that refers to it. -/
theorem StandsForClass.not_reflTransGen {name next : String} (h : StandsForClass table next)
    (hrefers : RefersTo table name next) :
    ¬Relation.ReflTransGen (RefersTo table) next name := by
  induction h generalizing name with
  | @itself next schema hfind hclass =>
    have hlast (other : String) : ¬RefersTo table next other := by
      intro hnext
      rw [RefersTo, nextAlias?, hfind, Option.bind_some] at hnext
      rw [isClass_of_aliasTarget? hnext] at hclass
      cases hclass
    intro hpath
    rcases hpath.cases_head with rfl | ⟨other, hnext, _⟩
    · exact hlast _ hrefers
    · exact hlast other hnext
  | @reference next further hfind _ ih =>
    have honly (other : String) (hnext : RefersTo table next other) : other = further := by
      rw [RefersTo, nextAlias?, hfind, Option.bind_some, aliasTarget?, Option.some.injEq] at hnext
      exact hnext.symm
    have hfurther : RefersTo table next further := by
      rw [RefersTo, nextAlias?, hfind]
      rfl
    intro hpath
    rcases hpath.cases_head with rfl | ⟨other, hnext, hrest⟩
    · obtain rfl := honly _ hrefers
      exact ih hfurther .refl
    · obtain rfl := honly other hnext
      exact ih hfurther (hrest.tail hrefers)

/-! ## The schemas that the module annotates -/

theorem renderAliases_rendered {names : Named String} {classes emitted order : List String}
    {scope : ModelScope} {a : Alias}
    (ha : a ∈ (renderAliases table names classes emitted order scope).1) :
    ∃ before component after, order = before ++ component :: after ∧
      a.name = nameOf names component ∧
      IsRendered (visibleComponents names classes (before.reverse ++ emitted)) false
        (renderAliases table names classes emitted order scope).2.models
        ((Named.find? table component).getD default) false a.type := by
  induction order generalizing emitted scope with
  | nil => simp [renderAliases] at ha
  | cons first rest ih =>
    rw [renderAliases] at ha ⊢
    rcases List.mem_cons.mp ha with rfl | ha
    · refine ⟨[], first, rest, rfl, rfl, nameOf names first, scope, rfl, fun model hmodel ↦ ?_⟩
      exact renderAliases_extends.mem_models hmodel
    · obtain ⟨before, component, after, horder, hname, hrendered⟩ := ih ha
      refine ⟨first :: before, component, after, ?_, hname, ?_⟩
      · rw [horder]
        rfl
      · rw [List.reverse_cons, List.append_assoc]
        exact hrendered

theorem hoistClasses_rendersFields (names : Named String) (classes : List String)
    (scope : ModelScope) {entries : SchemaTable} {entry : String × Schema} (h : entry ∈ entries) :
    ∃ model ∈ (hoistClasses names classes entries scope).models,
      model.name = nameOf names entry.1 ∧
        RendersFields (visibleComponents names classes [])
          (hoistClasses names classes entries scope).models entry.2.properties model := by
  induction entries generalizing scope with
  | nil => simp at h
  | cons first rest ih =>
    obtain ⟨component, schema⟩ := first
    rw [hoistClasses]
    rcases List.mem_cons.mp h with rfl | h
    · refine ⟨_, mem_models_hoistClasses (List.mem_append_right _ (List.mem_singleton_self _)), rfl,
        Schema.rendersFields_renderFields fun model hmodel ↦ ?_⟩
      exact mem_models_hoistClasses (List.mem_append_left _ hmodel)
    · exact ih _ h

theorem nameIn_inj {component other : String} (hcomponent : component ∈ Named.names table)
    (hother : other ∈ Named.names table) (heq : nameIn table component = nameIn table other) :
    component = other := by
  have hfound := (find?_classNames hother).trans (congrArg some heq.symm)
  exact Named.eq_of_find?_eq (classNames_values_nodup (Named.names table))
    (find?_classNames hcomponent) hfound

/-- The alias of a component that becomes no class. -/
theorem exists_alias_of_not_isClass {component : String} {schema : Schema}
    (hentry : (component, schema) ∈ table) (hclass : isClass schema = false) :
    ∃ a ∈ (moduleOf table).aliases, a.name = nameIn table component := by
  have hdefines := componentModule_defines (classNames (Named.names table)) hentry
  rw [ComponentModule.Defines, hclass, if_neg Bool.false_ne_true] at hdefines
  obtain ⟨a, ha, hname, -⟩ := hdefines
  exact ⟨a, ha, hname⟩

/-- The class of a component. -/
theorem exists_model_of_isClass {component : String} {schema : Schema}
    (hentry : (component, schema) ∈ table) (hclass : isClass schema = true) :
    ∃ model ∈ (moduleOf table).models, model.name = nameIn table component ∧
      RendersFields (visibleComponents (classNames (Named.names table))
        (Named.names (classEntries table)) []) (moduleOf table).models schema.properties model := by
  have hmem : (component, schema) ∈ classEntries table := List.mem_filter.mpr ⟨hentry, hclass⟩
  obtain ⟨model, hmodel, hname, hfields⟩ := hoistClasses_rendersFields
    (classNames (Named.names table)) (Named.names (classEntries table))
    (ModelScope.empty ((classNames (Named.names table)).map Prod.snd)) hmem
  have hsubset {model : Model} (hmodel : model ∈ (hoistClasses (classNames (Named.names table))
      (Named.names (classEntries table)) (classEntries table)
      (ModelScope.empty ((classNames (Named.names table)).map Prod.snd))).models) :
      model ∈ (moduleOf table).models :=
    renderAliases_extends.mem_models hmodel
  exact ⟨model, hsubset hmodel, hname, fun pair hpair ↦
    Schema.IsRendered.of_subset (hfields pair hpair) fun _ ↦ hsubset⟩

/-- An annotation that rendering gives a schema in a place where the classes that it refers to are
visible. -/
def IsPlaced (table : SchemaTable) (schema : Schema) (optional : Bool) (type : TypeExpr) : Prop :=
  ∃ emitted inModel,
    IsRendered (visibleComponents (classNames (Named.names table))
      (Named.names (classEntries table)) emitted) inModel (moduleOf table).models schema optional
      type ∧
    (inModel = false → ∀ target, aliasTarget? schema = some target → StandsForClass table target →
      target ∈ Named.names (classEntries table) ∨ target ∈ emitted)

theorem IsPlaced.exists_render {schema : Schema} {optional : Bool} {type : TypeExpr}
    (h : IsPlaced table schema optional type) :
    ∃ emitted inModel hint scope, type = (schema.render (visibleComponents
      (classNames (Named.names table)) (Named.names (classEntries table)) emitted) inModel hint
        scope).1.orNoneIf optional := by
  obtain ⟨emitted, inModel, ⟨hint, scope, htype, -⟩, -⟩ := h
  exact ⟨emitted, inModel, hint, scope, htype⟩

theorem StandsForClass.exists_entry {name : String} (h : StandsForClass table name) :
    ∃ schema, (name, schema) ∈ table := by
  cases h with
  | itself hfind => exact ⟨_, Named.mem_of_find? hfind⟩
  | reference hfind => exact ⟨_, Named.mem_of_find? hfind⟩

section Module

variable (h : (Named.names table).Nodup)

include h

theorem definedNames_nodup : (moduleOf table).definedNames.Nodup := by
  obtain ⟨nested, hperm, hnested, husable⟩ := definedNames_perm h
  rw [moduleOf, hperm.nodup_iff, List.nodup_append]
  refine ⟨hnested, classNames_values_nodup _, ?_⟩
  rintro name hname _ hcomponent rfl
  exact (husable name hname).not_reserved (List.mem_append_right _ hcomponent)

/-- A component that becomes a class has no alias. -/
theorem not_mem_aliases_of_model {model : Model} {a : Alias}
    (hmodel : model ∈ (moduleOf table).models) (ha : a ∈ (moduleOf table).aliases) :
    model.name ≠ a.name := by
  have hapart := (List.nodup_append.mp (definedNames_nodup h)).2.2
  exact hapart _ (List.mem_map_of_mem hmodel) _ (List.mem_map_of_mem ha)

theorem eq_of_model_name_eq {model other : Model} (hmodel : model ∈ (moduleOf table).models)
    (hother : other ∈ (moduleOf table).models) (hname : model.name = other.name) :
    model = other :=
  List.inj_on_of_nodup_map (List.nodup_append.mp (definedNames_nodup h)).1 hmodel hother hname

/-- What an alias without a cycle refers to is a class or comes before it. -/
theorem mem_of_aliasTarget? {component target : String} {schema : Schema}
    {before after : List String} (hentry : (component, schema) ∈ table)
    (horder : orderAliases table (aliasNames table) (aliasNames table) =
      before ++ component :: after)
    (htarget : aliasTarget? schema = some target) (hstands : StandsForClass table target) :
    target ∈ Named.names (classEntries table) ∨ target ∈ before := by
  have hrefers : RefersTo table component target := by
    rw [RefersTo, nextAlias?, Named.find?_of_mem h hentry]
    exact htarget
  have hcycle := hstands.not_reflTransGen hrefers
  obtain ⟨stated, hstated⟩ := hstands.exists_entry
  cases hclass : isClass stated with
  | true => exact .inl (List.mem_map_of_mem (List.mem_filter.mpr ⟨hstated, hclass⟩))
  | false =>
    have hpending : target ∈ aliasNames table :=
      List.mem_map_of_mem (List.mem_filter.mpr ⟨hstated, by simp [hclass]⟩)
    exact .inr (mem_before_of_orderAliases horder hrefers hpending hcycle)

/-- The alias of a component is rendered where the aliases before it have been emitted. -/
theorem exists_isRendered_of_alias {component : String} {schema : Schema} {a : Alias}
    (hentry : (component, schema) ∈ table) (ha : a ∈ (moduleOf table).aliases)
    (hname : a.name = nameIn table component) :
    ∃ before after,
      orderAliases table (aliasNames table) (aliasNames table) = before ++ component :: after ∧
        IsRendered (visibleComponents (classNames (Named.names table))
          (Named.names (classEntries table)) before.reverse) false (moduleOf table).models schema
          false a.type := by
  obtain ⟨before, other, after, horder, hother, hrendered⟩ := renderAliases_rendered ha
  have hordered : other ∈ orderAliases table (aliasNames table) (aliasNames table) := by
    rw [horder]
    simp
  obtain ⟨entry, hentryOther, rfl⟩ := List.mem_map.mp (orderAliases_subset _ _ hordered)
  obtain rfl := nameIn_inj (List.mem_map_of_mem hentry)
    (List.mem_map_of_mem (List.mem_of_mem_filter hentryOther)) (hname.symm.trans hother)
  rw [Named.find?_of_mem h hentry, List.append_nil] at hrendered
  exact ⟨before, after, horder, hrendered⟩

/-- Every annotation of the module is rendered from its schema. -/
theorem Annotates.isPlaced {schema : Schema} {optional : Bool} {type : TypeExpr}
    (hsite : Annotates table schema optional type) : IsPlaced table schema optional type := by
  have hfields {emitted : List String} {properties : List (String × Bool × Schema)}
      {model : Model} {property : String} {required : Bool} {inner : Schema} {f : ModelField}
      (hmodel : RendersFields (visibleComponents (classNames (Named.names table))
        (Named.names (classEntries table)) emitted) (moduleOf table).models properties model)
      (hfield : ((property, required, inner), f) ∈ properties.zip model.fields) :
      IsPlaced table inner (!required) f.type :=
    ⟨emitted, true, hmodel _ hfield, by simp⟩
  induction hsite with
  | @component component schema a hentry ha hname =>
    obtain ⟨before, after, horder, hrendered⟩ := exists_isRendered_of_alias h hentry ha hname
    refine ⟨before.reverse, false, hrendered, fun _ target htarget hstands ↦ ?_⟩
    rw [List.mem_reverse]
    exact mem_of_aliasTarget? h hentry horder htarget hstands
  | @property component property schema inner required model f hentry hmodel hname hfield =>
    cases hclass : isClass schema with
    | true =>
      obtain ⟨other, hother, hotherName, hrenders⟩ := exists_model_of_isClass hentry hclass
      obtain rfl := eq_of_model_name_eq h hmodel hother (hname.trans hotherName.symm)
      exact hfields hrenders hfield
    | false =>
      obtain ⟨a, ha, haName⟩ := exists_alias_of_not_isClass hentry hclass
      exact absurd (hname.trans haName.symm) (not_mem_aliases_of_model h hmodel ha)
  | item _ hinner ih =>
    obtain ⟨emitted, inModel, hrendered, hready⟩ := ih
    exact ⟨emitted, inModel, hrendered.items hinner, hready⟩
  | @inner nullable optional required properties property inner type model f _ hmodel hname hfield
      ih =>
    obtain ⟨emitted, inModel, hrendered, -⟩ := ih
    obtain ⟨other, hother, hotherName, hrenders⟩ := hrendered.exists_model hname
    obtain rfl := eq_of_model_name_eq h hmodel hother hotherName.symm
    exact hfields hrenders hfield

end Module

/-! ## When null is lost -/

theorem nameIn_isUsable {component : String} (h : component ∈ Named.names table) :
    IsUsable moduleNames (nameIn table component) :=
  classNames_isUsable (List.mem_map_of_mem (Named.mem_of_find? (find?_classNames h)))

/-- A name that can be written is not `Any`, and does not begin as an optional annotation does. -/
theorem not_optional_of_isUsable {name : String} (h : IsUsable moduleNames name) :
    name ≠ "Any" ∧ ∀ rest, name ≠ "Optional[" ++ rest := by
  constructor
  · rintro rfl
    exact h.not_reserved (by decide)
  · rintro rest rfl
    have hidentifier := h.isIdentifier
    rw [Text.isIdentifier, String.toList_append] at hidentifier
    simp [Text.isIdentifierChars, Text.isIdentifierContinue] at hidentifier

/-- A name that can be written admits the absent value only as the name of an alias. -/
theorem AdmitsNone.exists_alias {aliases : List Alias} {name : String}
    (h : AdmitsNone aliases name) (husable : IsUsable moduleNames name) :
    ∃ a ∈ aliases, a.name = name ∧ AdmitsNone aliases a.type.text := by
  cases h with
  | any => exact absurd rfl (not_optional_of_isUsable husable).1
  | optional rest => exact absurd rfl ((not_optional_of_isUsable husable).2 rest)
  | @named a ha hnone => exact ⟨a, ha, rfl, hnone⟩

/-- A reference is annotated by the name of its component where this is visible, or else may be
anything. -/
theorem componentType_visibleComponents (table : SchemaTable) (emitted : List String)
    (inModel : Bool) (name : String) :
    componentType (visibleComponents (classNames (Named.names table))
        (Named.names (classEntries table)) emitted inModel name) = .any ∨
      name ∈ Named.names table ∧
        componentType (visibleComponents (classNames (Named.names table))
          (Named.names (classEntries table)) emitted inModel name) =
            .named (nameIn table name) := by
  rw [visibleComponents]
  split
  · cases hfound : (classNames (Named.names table)).find? name with
    | none => exact .inl rfl
    | some expression =>
      have hname : nameIn table name = expression := by rw [nameIn, nameOf, hfound]; rfl
      have hmem : name ∈ Named.names table := by
        rw [← names_classNames (Named.names table)]
        exact List.mem_map_of_mem (Named.mem_of_find? hfound)
      rw [hname, componentType]
      split
      · exact .inl rfl
      · exact .inr ⟨hmem, rfl⟩
  · exact .inl rfl

/-- A component of the table is annotated by its name where it is visible. -/
theorem componentType_of_visible {name : String} {emitted : List String} {inModel : Bool}
    (hmem : name ∈ Named.names table)
    (hvisible : inModel = false → name ∈ Named.names (classEntries table) ∨ name ∈ emitted) :
    componentType (visibleComponents (classNames (Named.names table))
      (Named.names (classEntries table)) emitted inModel name) = .named (nameIn table name) := by
  have hne : nameIn table name ≠ "" := by
    intro hempty
    have hidentifier := (nameIn_isUsable hmem).isIdentifier
    rw [hempty] at hidentifier
    exact absurd hidentifier (by decide)
  rw [visibleComponents, if_pos, find?_classNames hmem, componentType,
    if_neg (by simpa using hne)]
  cases inModel with
  | true => rfl
  | false =>
    rcases hvisible rfl with hclass | hemitted
    · simp [hclass]
    · simp [hemitted]

/-- What stands for a class is annotated by its name. -/
theorem StandsForClass.text_eq {name : String} {type : TypeExpr}
    (hstands : StandsForClass table name)
    (hplaced : IsPlaced table (.ref false name) false type) :
    type.text = nameIn table name := by
  obtain ⟨schema, hentry⟩ := hstands.exists_entry
  obtain ⟨emitted, inModel, ⟨hint, scope, htype, -⟩, hready⟩ := hplaced
  rw [htype, Schema.render, componentType_of_visible (List.mem_map_of_mem hentry)
    fun hout ↦ hready hout name rfl hstands]
  rfl

section Module

variable (h : (Named.names table).Nodup)

include h

/-- The name of what stands for a class does not admit the absent value. -/
theorem StandsForClass.not_admitsNone {name : String} (hstands : StandsForClass table name) :
    ¬AdmitsNone (moduleOf table).aliases (nameIn table name) := by
  induction hstands with
  | @itself name schema hfind hclass =>
    have hentry := Named.mem_of_find? hfind
    obtain ⟨model, hmodel, hname, -⟩ := exists_model_of_isClass hentry hclass
    intro hnone
    obtain ⟨a, ha, haName, -⟩ := hnone.exists_alias (nameIn_isUsable (List.mem_map_of_mem hentry))
    exact not_mem_aliases_of_model h hmodel ha (hname.trans haName.symm)
  | @reference name next hfind hstands ih =>
    have hentry := Named.mem_of_find? hfind
    intro hnone
    obtain ⟨a, ha, haName, hnone⟩ :=
      hnone.exists_alias (nameIn_isUsable (List.mem_map_of_mem hentry))
    have hplaced := (Annotates.component hentry ha haName).isPlaced h
    rw [hstands.text_eq hplaced] at hnone
    exact ih hnone

/-- Null is kept unless it is that of a class. -/
theorem AdmitsNull.admitsNone {schema : Schema} (hnull : AdmitsNull table schema)
    {optional : Bool} {type : TypeExpr} (hsite : Annotates table schema optional type)
    (hkept : ¬RefersToClass table schema) :
    AdmitsNone (moduleOf table).aliases type.text := by
  induction hnull generalizing optional type with
  | flag hflag =>
    obtain ⟨emitted, inModel, hint, scope, htype⟩ := (hsite.isPlaced h).exists_render
    apply AdmitsNone.of_admitsNone
    rw [htype, TypeExpr.admitsNone_orNoneIf, admitsNone_render_of_nullable hflag, Bool.true_or]
  | unknown nullable =>
    obtain ⟨emitted, inModel, hint, scope, htype⟩ := (hsite.isPlaced h).exists_render
    rw [htype, Schema.render]
    exact .of_orNoneIf _ rfl
  | @missing nullable name hmissing =>
    obtain ⟨emitted, inModel, hint, scope, htype⟩ := (hsite.isPlaced h).exists_render
    rcases componentType_visibleComponents table emitted inModel name with hany | ⟨hmem, -⟩
    · rw [htype, Schema.render, hany]
      exact .of_orNoneIf _ rfl
    · exact absurd hmem (Named.find?_eq_none_iff.mp hmissing)
  | @component nullable name schema hfind hnull ih =>
    obtain ⟨emitted, inModel, hint, scope, htype⟩ := (hsite.isPlaced h).exists_render
    rcases componentType_visibleComponents table emitted inModel name with hany | ⟨-, hnamed⟩
    · rw [htype, Schema.render, hany]
      exact .of_orNoneIf _ rfl
    · rw [Schema.render, hnamed] at htype
      cases hflags : nullable || optional with
      | true =>
        rw [htype]
        exact .of_orNoneIf _ (by rw [Bool.or_assoc, hflags, Bool.or_true])
      | false =>
        obtain ⟨rfl, rfl⟩ := Bool.or_eq_false_iff.mp hflags
        have hentry := Named.mem_of_find? hfind
        have hclass : isClass schema = false := by
          rw [← Bool.not_eq_true]
          exact fun hclass ↦ hkept ⟨name, rfl, .itself hfind hclass⟩
        obtain ⟨a, ha, haName⟩ := exists_alias_of_not_isClass hentry hclass
        have halias : AdmitsNone (moduleOf table).aliases a.type.text := by
          refine ih (.component hentry ha haName) ?_
          rintro ⟨next, rfl, hstands⟩
          exact hkept ⟨name, rfl, .reference hfind hstands⟩
        have htext : type.text = a.name := by
          rw [htype, haName]
          rfl
        rw [htext]
        exact .named ha halias

/-- A schema that admits null has an annotation that admits the absent value, unless it refers to a
class and its value must not be left out. -/
theorem admitsNone_iff_not_refersToClass {schema : Schema} {optional : Bool} {type : TypeExpr}
    (hsite : Annotates table schema optional type) (hnull : AdmitsNull table schema) :
    AdmitsNone (moduleOf table).aliases type.text ↔
      optional = true ∨ ¬RefersToClass table schema := by
  constructor
  · intro hnone
    by_contra hlost
    rw [not_or, not_not, Bool.not_eq_true] at hlost
    obtain ⟨rfl, name, rfl, hstands⟩ := hlost
    rw [hstands.text_eq (hsite.isPlaced h)] at hnone
    exact hstands.not_admitsNone h hnone
  · rintro (rfl | hkept)
    · obtain ⟨emitted, inModel, hint, scope, htype⟩ := (hsite.isPlaced h).exists_render
      apply AdmitsNone.of_admitsNone
      rw [htype, TypeExpr.admitsNone_orNoneIf, Bool.or_true]
    · exact hnull.admitsNone h hsite hkept

end Module

/-- A table with a class that admits null, and a class with references to it, one of them through an
alias with a flag of its own. -/
def nullableTable : SchemaTable :=
  [("C", .object true [("p", true, .string false {})]), ("A", .ref true "C"),
    ("R", .object false [("c", true, .ref false "C"), ("a", true, .ref false "A")])]

/-- The reference to the class loses null, and the one to the alias keeps it. -/
theorem nullableTable_loses_null :
    (Named.names nullableTable).Nodup ∧ AdmitsNull nullableTable (.ref false "C") ∧
      AdmitsNull nullableTable (.ref false "A") ∧
      (∃ lost kept, Annotates nullableTable (.ref false "C") false lost ∧
        Annotates nullableTable (.ref false "A") false kept ∧
        ¬AdmitsNone (moduleOf nullableTable).aliases lost.text ∧
        AdmitsNone (moduleOf nullableTable).aliases kept.text) ∧
      (moduleOf nullableTable).models.map (fun model ↦ model.fields.map ModelField.line) =
        [["p: str"], ["c: C", "a: A"]] ∧
      (moduleOf nullableTable).aliases.map (fun a ↦ (a.name, a.type.text)) =
        [("A", "Optional[C]")] := by
  have hnodup : (Named.names nullableTable).Nodup := by decide
  have hclassNull : AdmitsNull nullableTable (.ref false "C") := .component rfl (.flag rfl)
  have haliasNull : AdmitsNull nullableTable (.ref false "A") := .component rfl (.flag rfl)
  have hclass : StandsForClass nullableTable "C" := .itself rfl rfl
  have hkept : ¬RefersToClass nullableTable (.ref false "A") := by
    rintro ⟨name, heq, hstands⟩
    cases heq
    cases hstands with
    | itself hfind hclass =>
      cases hfind
      cases hclass
    | reference hfind _ => cases hfind
  have hsites : ∃ lost kept, Annotates nullableTable (.ref false "C") false lost ∧
      Annotates nullableTable (.ref false "A") false kept := by
    have hentry : ("R", Schema.object false [("c", true, .ref false "C"),
        ("a", true, .ref false "A")]) ∈ nullableTable := by simp [nullableTable]
    have hdefines := componentModule_defines (classNames (Named.names nullableTable)) hentry
    rw [ComponentModule.Defines, if_pos (by rfl)] at hdefines
    obtain ⟨model, hmodel, hname, hfields⟩ := hdefines
    have hlength : model.fields.length = 2 := by
      have hnames := congrArg List.length hfields.names_eq
      have hstated := congrArg List.length hfields.fields_eq
      rw [List.length_map] at hstated
      rw [Named.names, List.length_map] at hnames
      exact hstated.trans hnames
    obtain ⟨lost, kept, hpair⟩ := List.length_eq_two.mp hlength
    have hlost : Annotates nullableTable (.ref false "C") (!true) lost.type :=
      .property hentry hmodel hname (by rw [hpair]; exact List.mem_cons_self ..)
    have hkept : Annotates nullableTable (.ref false "A") (!true) kept.type :=
      .property hentry hmodel hname
        (by rw [hpair]; exact List.mem_cons_of_mem _ (List.mem_cons_self ..))
    exact ⟨lost.type, kept.type, hlost, hkept⟩
  obtain ⟨lost, kept, hlostSite, hkeptSite⟩ := hsites
  refine ⟨hnodup, hclassNull, haliasNull, ⟨lost, kept, hlostSite, hkeptSite, ?_, ?_⟩, ?_, ?_⟩
  · rw [admitsNone_iff_not_refersToClass hnodup hlostSite hclassNull]
    rintro (hoptional | hnot)
    · cases hoptional
    · exact hnot ⟨"C", rfl, hclass⟩
  · rw [admitsNone_iff_not_refersToClass hnodup hkeptSite haliasNull]
    exact .inr hkept
  · decide +kernel
  · decide +kernel

end ApiCompiler.Package
