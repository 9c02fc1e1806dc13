import ApiCompiler.Proofs.Model.Annotation
import ApiCompiler.Proofs.Model.ClassName
import ApiCompiler.Proofs.Package.AliasOrder

/-!
# The module of component schemas

Every component of a table has one place in the module: as a class when it is an object with
properties, and as an alias otherwise. All names that the module defines are distinct and can be
written, and an alias mentions only classes, which stand before all aliases, and aliases before it.
-/

namespace ApiCompiler

open Naming (IsUsable)

namespace ModelScope

/-- A scope that has the given classes and, besides, classes under names that were not taken at the
start. -/
structure HoldsClasses (start classes : List String) (scope : ModelScope) : Prop where
  takesUsable : scope.TakesUsable start
  exists_nested : ∃ nested, (scope.models.map Model.name).Perm (nested ++ classes) ∧
    nested.Nodup ∧ ∀ name ∈ nested, name ∈ scope.taken ∧ name ∉ start

variable {start classes : List String} {scope final : ModelScope}

/-- Rendering adds classes under names that were not taken. -/
theorem HoldsClasses.of_extends (h : scope.HoldsClasses start classes)
    (hextends : scope.Extends final) (hfinal : final.TakesUsable start) :
    final.HoldsClasses start classes := by
  obtain ⟨hsubset, added, hadded, hnodup, hnames⟩ := hextends
  obtain ⟨nested, hperm, hnested, hfree⟩ := h.exists_nested
  refine ⟨hfinal, nested ++ added.map Model.name, ?_, ?_, ?_⟩
  · rw [hadded, List.map_append]
    calc
      (scope.models.map Model.name ++ added.map Model.name).Perm
          (nested ++ classes ++ added.map Model.name) := hperm.append_right _
      _ = nested ++ (classes ++ added.map Model.name) := List.append_assoc ..
      List.Perm _ (nested ++ (added.map Model.name ++ classes)) :=
        List.perm_append_comm.append_left nested
      _ = nested ++ added.map Model.name ++ classes := (List.append_assoc ..).symm
  · rw [List.nodup_append]
    refine ⟨hnested, hnodup, ?_⟩
    rintro name hname _ hother rfl
    obtain ⟨model, hmodel, rfl⟩ := List.mem_map.mp hother
    exact (hnames model hmodel).1 (hfree _ hname).1
  · intro name hname
    rcases List.mem_append.mp hname with hname | hname
    · exact ⟨hsubset (hfree name hname).1, (hfree name hname).2⟩
    · obtain ⟨model, hmodel, rfl⟩ := List.mem_map.mp hname
      exact ⟨(hnames model hmodel).2,
        fun hstart ↦ (hnames model hmodel).1 (h.takesUsable.start_subset hstart)⟩

/-- A class that is pushed under a name of its own is one class more. -/
theorem HoldsClasses.push (h : scope.HoldsClasses start classes) (model : Model) :
    (scope.push model).HoldsClasses start (classes ++ [model.name]) := by
  obtain ⟨nested, hperm, hnested, hfree⟩ := h.exists_nested
  refine ⟨h.takesUsable.push model, nested, ?_, hnested, hfree⟩
  rw [ModelScope.push, List.map_append, ← List.append_assoc]
  exact hperm.append_right _

end ModelScope

namespace Package

open ModelScope (HoldsClasses)

variable {names : Named String} {start : List String} {scope : ModelScope}

/-- The name of a component in the generated module. -/
def nameOf (names : Named String) (component : String) : String :=
  (names.find? component).getD ""

/-! ## Classes -/

theorem hoistAs_holdsClasses {classes : List String} (components : ComponentNames)
    (schema : Schema) (className : String) (h : scope.HoldsClasses start classes) :
    (schema.hoistAs components className scope).HoldsClasses start (classes ++ [className]) := by
  let fieldNames := Model.fieldNames (schema.properties.map Prod.fst) scope.taken
  have hextends : scope.Extends (Schema.renderFields components className schema.properties
      fieldNames scope).2 :=
    Schema.renderFields_extends className schema.properties fieldNames scope
  have hfields := h.of_extends hextends
    (Schema.renderFields_takesUsable className schema.properties fieldNames h.takesUsable)
  exact hfields.push ⟨className, _, fieldNames⟩

theorem hoistClasses_holdsClasses {classes : List String} (visible : List String)
    (entries : SchemaTable) (h : scope.HoldsClasses start classes) :
    (hoistClasses names visible entries scope).HoldsClasses start
      (classes ++ entries.map fun entry ↦ nameOf names entry.1) := by
  induction entries generalizing classes scope with
  | nil => simpa [hoistClasses] using h
  | cons entry rest ih =>
    obtain ⟨component, schema⟩ := entry
    rw [hoistClasses, List.map_cons, List.append_cons]
    exact ih (hoistAs_holdsClasses _ schema _ h)

/-- Models stay where they are while classes are made. -/
theorem mem_models_hoistClasses {visible : List String} {entries : SchemaTable} {model : Model}
    (h : model ∈ scope.models) :
    model ∈ (hoistClasses names visible entries scope).models := by
  induction entries generalizing scope with
  | nil => exact h
  | cons entry rest ih =>
    obtain ⟨component, schema⟩ := entry
    rw [hoistClasses]
    apply ih
    rw [Schema.hoistAs]
    exact List.mem_append_left _ ((Schema.renderFields_extends _ _ _ _).mem_models h)

/-- Every entry gets a class with a field for each of its properties. -/
theorem exists_model_of_hoistClasses (names : Named String) (visible : List String)
    (scope : ModelScope) {entries : SchemaTable} {entry : String × Schema} (h : entry ∈ entries) :
    ∃ model ∈ (hoistClasses names visible entries scope).models,
      model.name = nameOf names entry.1 ∧
        model.HasFieldsFor (Named.names entry.2.properties) := by
  induction entries generalizing scope with
  | nil => simp at h
  | cons first rest ih =>
    obtain ⟨component, schema⟩ := first
    rw [hoistClasses]
    rcases List.mem_cons.mp h with rfl | h
    · have hnames := Model.names_fieldNames (schema.properties.map Prod.fst) scope.taken
      refine ⟨_, mem_models_hoistClasses (List.mem_append_right _ (List.mem_singleton_self _)), rfl,
        ⟨hnames, Model.fieldNames_nodup _ _, Schema.map_renderFields hnames _⟩⟩
    · exact ih _ h

/-! ## Aliases -/

section Aliases

variable {table : SchemaTable} {classes emitted order : List String}

/-- The annotation of an alias is that of the component whose name it has. -/
def Alias.IsFor (table : SchemaTable) (names : Named String) (component : String) (a : Alias) :
    Prop :=
  a.name = nameOf names component ∧ ∃ visible scope, a.type =
    (((Named.find? table component).getD default).render visible false a.name scope).1

/-- Every component in the order gets an alias. -/
theorem exists_alias_of_renderAliases {component : String} (h : component ∈ order) :
    ∃ a ∈ (renderAliases table names classes emitted order scope).1,
      a.IsFor table names component := by
  induction order generalizing emitted scope with
  | nil => simp at h
  | cons first rest ih =>
    rw [renderAliases]
    rcases List.mem_cons.mp h with rfl | h
    · exact ⟨_, List.mem_cons_self .., rfl, _, _, rfl⟩
    · obtain ⟨a, ha, hfor⟩ := ih h
      exact ⟨a, List.mem_cons_of_mem _ ha, hfor⟩

theorem map_name_renderAliases :
    (renderAliases table names classes emitted order scope).1.map Alias.name =
      order.map (nameOf names) := by
  induction order generalizing emitted scope with
  | nil => rfl
  | cons component rest ih =>
    rw [renderAliases]
    exact congrArg (nameOf names component :: ·) ih

theorem renderAliases_extends :
    scope.Extends (renderAliases table names classes emitted order scope).2 := by
  induction order generalizing emitted scope with
  | nil => exact .refl scope
  | cons component rest ih =>
    rw [renderAliases]
    exact (Schema.render_extends false _ _ scope).trans ih

theorem renderAliases_takesUsable (h : scope.TakesUsable start) :
    (renderAliases table names classes emitted order scope).2.TakesUsable start := by
  induction order generalizing emitted scope with
  | nil => exact h
  | cons component rest ih =>
    rw [renderAliases]
    exact ih (Schema.render_takesUsable false _ _ h)

/-- A component that is visible outside classes is a class or has been emitted. -/
theorem eq_nameOf_of_visibleComponents {component expression : String}
    (h : visibleComponents names classes emitted false component = some expression) :
    (component ∈ classes ∨ component ∈ emitted) ∧ expression = nameOf names component := by
  unfold visibleComponents at h
  split at h
  · next hvisible => exact ⟨by simpa using hvisible, by simp [nameOf, h]⟩
  · cases h

/-- An alias mentions classes and aliases that have been emitted before it. -/
theorem mentioned_of_renderAliases
    (hclasses : ∀ component ∈ classes, nameOf names component ∈ scope.models.map Model.name)
    {before after : List Alias} {a : Alias}
    (h : (renderAliases table names classes emitted order scope).1 = before ++ a :: after)
    {name : String} (hname : name ∈ a.type.mentioned) :
    name ∈ (renderAliases table names classes emitted order scope).2.models.map Model.name ∨
      name ∈ emitted.map (nameOf names) ∨ name ∈ before.map Alias.name := by
  induction order generalizing emitted scope before with
  | nil => simp [renderAliases] at h
  | cons component rest ih =>
    have hextends : scope.Extends
        (((Named.find? table component).getD default).render
          (visibleComponents names classes emitted) false (nameOf names component) scope).2 :=
      Schema.render_extends false _ _ scope
    have hmodels {first last : ModelScope} (hlater : first.Extends last) :
        first.models.map Model.name ⊆ last.models.map Model.name :=
      List.map_subset _ fun _ ↦ hlater.mem_models
    rw [renderAliases] at h ⊢
    cases before with
    | nil =>
      obtain ⟨rfl, -⟩ := List.cons_eq_cons.mp h
      rcases Schema.exists_of_mem_mentioned false _ hname with hmodel | ⟨other, hother⟩
      · exact .inl (hmodels renderAliases_extends hmodel)
      · obtain ⟨hvisible, rfl⟩ := eq_nameOf_of_visibleComponents hother
        rcases hvisible with hclass | hemitted
        · exact .inl (hmodels (hextends.trans renderAliases_extends) (hclasses other hclass))
        · exact .inr (.inl (List.mem_map_of_mem hemitted))
    | cons first between =>
      obtain ⟨rfl, hrest⟩ := List.cons_eq_cons.mp h
      have hlater := ih (fun other hother ↦ hmodels hextends (hclasses other hother)) hrest
      rw [List.map_cons, List.mem_cons] at hlater
      rcases hlater with hmodel | (rfl | hemitted) | hbefore
      · exact .inl hmodel
      · exact .inr (.inr (List.mem_cons_self ..))
      · exact .inr (.inl hemitted)
      · exact .inr (.inr (List.mem_cons_of_mem _ hbefore))

end Aliases

/-! ## The whole module -/

/-- The names that the module of components defines: its classes and, behind them, its aliases. -/
def ComponentModule.definedNames (components : ComponentModule) : List String :=
  components.models.map Model.name ++ components.aliases.map Alias.name

/-- A component as a module defines it under a name: a class with a field for each property, or an
alias for its annotation. -/
def ComponentModule.Defines (components : ComponentModule) (table : SchemaTable)
    (names : Named String) (name : String) (entry : String × Schema) : Prop :=
  if isClass entry.2 then
    ∃ model ∈ components.models, model.name = name ∧
      model.HasFieldsFor (Named.names entry.2.properties)
  else ∃ a ∈ components.aliases, a.name = name ∧ a.IsFor table names entry.1

/-- A module with the components of a table: each of them is defined exactly once, all names are
distinct and can be written, and an alias mentions classes and aliases before it only. -/
structure ComponentModule.IsOf (table : SchemaTable) (components : ComponentModule) : Prop where
  defines : ∀ entry ∈ table, ∃ name,
    (classNames (Named.names table)).find? entry.1 = some name ∧
      components.definedNames.count name = 1 ∧
        components.Defines table (classNames (Named.names table)) name entry
  aliases_perm : (components.aliases.map Alias.name).Perm
    ((aliasNames table).map (nameOf (classNames (Named.names table))))
  names_nodup : components.definedNames.Nodup
  isUsable : ∀ name ∈ components.definedNames, IsUsable moduleNames name
  mentioned : ∀ before a after, components.aliases = before ++ a :: after →
    ∀ name ∈ a.type.mentioned,
      name ∈ components.models.map Model.name ∨ name ∈ before.map Alias.name

/-- Classes and aliases together are the components of the table. -/
theorem entries_perm (table : SchemaTable) :
    (Named.names (classEntries table) ++ aliasNames table).Perm (Named.names table) := by
  rw [classEntries, aliasNames, Named.names, ← List.map_append]
  exact (List.filter_append_perm _ table).map Prod.fst

theorem map_nameOf_names (h : names.names.Nodup) :
    names.names.map (nameOf names) = names.map Prod.snd := by
  rw [Named.names, List.map_map]
  refine List.map_congr_left fun entry hentry ↦ ?_
  simp [nameOf, Named.find?_of_mem h hentry]

theorem find?_classNames {components : List String} {component : String}
    (h : component ∈ components) :
    (classNames components).find? component = some (nameOf (classNames components) component) := by
  rw [← names_classNames components] at h
  obtain ⟨name, hname⟩ := Named.exists_find?_of_mem h
  simp [nameOf, hname]

theorem mem_definedNames_of_defines {components : ComponentModule} {table : SchemaTable}
    {name : String} {entry : String × Schema} (h : components.Defines table names name entry) :
    name ∈ components.definedNames := by
  unfold ComponentModule.Defines at h
  split at h
  · obtain ⟨model, hmodel, rfl, -⟩ := h
    exact List.mem_append_left _ (List.mem_map_of_mem hmodel)
  · obtain ⟨a, ha, rfl, -⟩ := h
    exact List.mem_append_right _ (List.mem_map_of_mem ha)

/-- An entry of a table is defined under its name, as a class or as an alias. -/
theorem componentModule_defines {table : SchemaTable} (names : Named String)
    {entry : String × Schema} (h : entry ∈ table) :
    (componentModule table names).Defines table names (nameOf names entry.1) entry := by
  unfold ComponentModule.Defines
  cases hclass : isClass entry.2 with
  | true =>
    have hentry : entry ∈ classEntries table := List.mem_filter.mpr ⟨h, hclass⟩
    obtain ⟨model, hmodel, hfields⟩ := exists_model_of_hoistClasses names
      (Named.names (classEntries table)) (ModelScope.empty (names.map Prod.snd)) hentry
    exact ⟨model, renderAliases_extends.mem_models hmodel, hfields⟩
  | false =>
    have hentry : entry.1 ∈ aliasNames table :=
      List.mem_map_of_mem (List.mem_filter.mpr ⟨h, by simp [hclass]⟩)
    have hordered : entry.1 ∈ orderAliases table (aliasNames table) (aliasNames table) :=
      mem_orderAliases hentry hentry
    obtain ⟨a, ha, hfor⟩ := exists_alias_of_renderAliases hordered
    exact ⟨a, ha, hfor.1, hfor⟩

/-- An alias of a module mentions classes and aliases before it. -/
theorem mentioned_of_componentModule (table : SchemaTable) (names : Named String)
    {before after : List Alias} {a : Alias}
    (h : (componentModule table names).aliases = before ++ a :: after) {name : String}
    (hname : name ∈ a.type.mentioned) :
    name ∈ (componentModule table names).models.map Model.name ∨
      name ∈ before.map Alias.name := by
  have hclasses : ∀ component ∈ Named.names (classEntries table), nameOf names component ∈
      (hoistClasses names (Named.names (classEntries table)) (classEntries table)
        (ModelScope.empty (names.map Prod.snd))).models.map Model.name := by
    intro component hcomponent
    obtain ⟨entry, hentry, rfl⟩ := List.mem_map.mp hcomponent
    obtain ⟨model, hmodel, hmodelName, -⟩ := exists_model_of_hoistClasses names
      (Named.names (classEntries table)) (ModelScope.empty (names.map Prod.snd)) hentry
    exact List.mem_map.mpr ⟨model, hmodel, hmodelName⟩
  rcases mentioned_of_renderAliases hclasses h hname with hmodel | hemitted | hbefore
  · exact .inl hmodel
  · simp at hemitted
  · exact .inr hbefore

section Module

variable {table : SchemaTable} (h : (Named.names table).Nodup)

include h

theorem aliasNames_perm :
    ((componentModule table (classNames (Named.names table))).aliases.map Alias.name).Perm
      ((aliasNames table).map (nameOf (classNames (Named.names table)))) := by
  have hnodup : (aliasNames table).Nodup :=
    (List.nodup_append.mp ((entries_perm table).nodup_iff.mpr h)).2.1
  rw [componentModule, map_name_renderAliases]
  exact (orderAliases_perm hnodup).map _

/-- Besides the names of components, a module defines names that were free. -/
theorem definedNames_perm :
    ∃ nested, (componentModule table (classNames (Named.names table))).definedNames.Perm
        (nested ++ (classNames (Named.names table)).map Prod.snd) ∧ nested.Nodup ∧
      ∀ name ∈ nested,
        IsUsable (moduleNames ++ (classNames (Named.names table)).map Prod.snd) name := by
  let names := classNames (Named.names table)
  let start := ModelScope.empty (names.map Prod.snd)
  have hstart : start.HoldsClasses start.taken [] :=
    ⟨start.takesUsable_self, [], List.Perm.refl _, List.nodup_nil, by simp⟩
  let classes := Named.names (classEntries table)
  have hclasses : (hoistClasses names classes (classEntries table) start).HoldsClasses start.taken
      ([] ++ (classEntries table).map fun entry ↦ nameOf names entry.1) :=
    hoistClasses_holdsClasses classes (classEntries table) hstart
  have hextends : (hoistClasses names classes (classEntries table) start).Extends
      (renderAliases table names classes [] (orderAliases table (aliasNames table)
        (aliasNames table)) (hoistClasses names classes (classEntries table) start)).2 :=
    renderAliases_extends
  have hmodule := hclasses.of_extends hextends (renderAliases_takesUsable hclasses.takesUsable)
  obtain ⟨nested, hperm, hnested, hfree⟩ := hmodule.exists_nested
  have hnames : (((classEntries table).map fun entry ↦ nameOf names entry.1) ++
      (aliasNames table).map (nameOf names)).Perm (names.map Prod.snd) := by
    have hall := (entries_perm table).map (nameOf names)
    rw [List.map_append, Named.names, List.map_map] at hall
    refine hall.trans (.of_eq ?_)
    rw [← map_nameOf_names (names_classNames (Named.names table) ▸ h), names_classNames]
  refine ⟨nested, ?_, hnested, fun name hname ↦ ?_⟩
  · rw [List.nil_append] at hperm
    calc
      List.Perm _ (nested ++ ((classEntries table).map fun entry ↦ nameOf names entry.1) ++
          (aliasNames table).map (nameOf names)) := hperm.append (aliasNames_perm h)
      _ = _ := List.append_assoc ..
      List.Perm _ (nested ++ names.map Prod.snd) := hnames.append_left nested
  · exact (hmodule.takesUsable.isUsable name (hfree name hname).1).resolve_left (hfree name hname).2

end Module

/-- Every table of distinct names makes a module that defines each component once, under distinct
names that can be written, and whose aliases mention only classes and aliases before them. -/
theorem componentModule_isOf {table : SchemaTable} (h : (Named.names table).Nodup) :
    (componentModule table (classNames (Named.names table))).IsOf table := by
  obtain ⟨nested, hperm, hnested, husable⟩ := definedNames_perm h
  have hnodup : (componentModule table (classNames (Named.names table))).definedNames.Nodup := by
    rw [hperm.nodup_iff, List.nodup_append]
    refine ⟨hnested, classNames_values_nodup _, ?_⟩
    rintro name hname _ hcomponent rfl
    exact (husable name hname).not_reserved (List.mem_append_right _ hcomponent)
  constructor
  · intro entry hentry
    have hdefines := componentModule_defines (classNames (Named.names table)) hentry
    exact ⟨_, find?_classNames (List.mem_map_of_mem hentry),
      List.count_eq_one_of_mem hnodup (mem_definedNames_of_defines hdefines), hdefines⟩
  · exact aliasNames_perm h
  · exact hnodup
  · intro name hname
    rcases List.mem_append.mp (hperm.mem_iff.mp hname) with hname | hname
    · exact (husable name hname).mono (List.subset_append_left _ _)
    · exact classNames_isUsable hname
  · exact fun _ _ _ ha _ hname ↦ mentioned_of_componentModule table _ ha hname

/-- A table with a cycle of two aliases, a class that refers to itself and to an alias, and an alias
whose items ask for the name of another component. -/
def cyclicTable : SchemaTable :=
  [("Row", .array false (.ref false "Rows")),
    ("Rows", .ref true "Row"),
    ("class", .object false
      [("next", true, .ref false "class"), ("rows", false, .ref false "Rows")]),
    ("Cells", .array false (.object false [("cell", true, .ref false "Row")])),
    ("cells item", .array false (.ref false "class"))]

/-- The cycle is cut at its second alias, and the class of the inline items gets a name of its own.
-/
theorem cyclicTable_isOf :
    (Named.names cyclicTable).Nodup ∧
      (componentModule cyclicTable (classNames (Named.names cyclicTable))).IsOf cyclicTable ∧
      (componentModule cyclicTable (classNames (Named.names cyclicTable))).definedNames =
        ["Class", "CellsItem2", "Rows", "Row", "Cells", "CellsItem"] :=
  ⟨by decide, componentModule_isOf (by decide), by decide +kernel⟩

end Package

end ApiCompiler
