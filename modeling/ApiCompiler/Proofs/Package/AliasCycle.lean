import ApiCompiler.Proofs.Package.References

/-!
# Cycles of aliases

The order of aliases is the one in which a recursion through their references finishes with them,
where nothing is visited twice; so the recursion ends, and in this order. An alias *closes* when it
refers to an alias that does not come before it. Only an alias on a cycle closes. Nothing that comes
before it leads back to it, and therefore each cycle has exactly one alias that closes.
-/

namespace ApiCompiler

/-- The annotation of a value that stands in lists only. -/
def TypeExpr.element : TypeExpr → TypeExpr
  | list items => items.element
  | optional inner => inner.element
  | type => type

theorem TypeExpr.element_orNoneIf (condition : Bool) (type : TypeExpr) :
    (type.orNoneIf condition).element = type.element := by
  unfold orNoneIf orNone
  split
  · split <;> rfl
  · rfl

namespace Package

open Relation (ReflTransGen TransGen)
open Schema (EachReference)

variable {table : SchemaTable}

theorem RefersTo.unique {name next other : String} (h : RefersTo table name next)
    (hother : RefersTo table name other) : next = other :=
  Option.some.inj (h.symm.trans hother)

/-! ## The recursion through references -/

/-- A visit of a component, given the components seen before. A component that has been seen is left
alone. Any other one is marked as seen, the alias that it refers to is visited if there is one, and
then it is ordered. A visit gives the components seen by then and those that it has ordered. -/
inductive Visits (table : SchemaTable) :
    List String → String → List String → List String → Prop where
  | seen {seen : List String} {name : String} (h : name ∈ seen) : Visits table seen name seen []
  | last {seen : List String} {name : String} (h : name ∉ seen)
      (hlast : ∀ next, RefersTo table name next → next ∉ aliasNames table) :
      Visits table seen name (name :: seen) [name]
  | onward {seen later order : List String} {name next : String} (h : name ∉ seen)
      (hrefers : RefersTo table name next) (hnext : next ∈ aliasNames table)
      (hvisit : Visits table (name :: seen) next later order) :
      Visits table seen name later (order ++ [name])

/-- Visits of components one after the other, and the order of all that they order. -/
inductive VisitsAll (table : SchemaTable) : List String → List String → List String → Prop where
  | nil {seen : List String} : VisitsAll table seen [] []
  | cons {seen later rest order others : List String} {name : String}
      (hfirst : Visits table seen name later order) (hrest : VisitsAll table later rest others) :
      VisitsAll table seen (name :: rest) (order ++ others)

/-- A visit has one result. -/
theorem Visits.unique {seen later order others more : List String} {name : String}
    (h : Visits table seen name later order) (hother : Visits table seen name others more) :
    later = others ∧ order = more := by
  induction h generalizing others more with
  | seen h =>
    cases hother with
    | seen => exact ⟨rfl, rfl⟩
    | last hnew => exact absurd h hnew
    | onward hnew => exact absurd h hnew
  | last h hlast =>
    cases hother with
    | seen hseen => exact absurd hseen h
    | last => exact ⟨rfl, rfl⟩
    | onward _ hrefers hnext => exact absurd hnext (hlast _ hrefers)
  | onward h hrefers hnext _ ih =>
    cases hother with
    | seen hseen => exact absurd hseen h
    | last _ hlast => exact absurd hnext (hlast _ hrefers)
    | onward _ hrefers' _ hvisit =>
      obtain rfl := hrefers.unique hrefers'
      obtain ⟨rfl, rfl⟩ := ih hvisit
      exact ⟨rfl, rfl⟩

theorem VisitsAll.unique {seen names order others : List String}
    (h : VisitsAll table seen names order) (hother : VisitsAll table seen names others) :
    order = others := by
  induction h generalizing others with
  | nil =>
    cases hother
    rfl
  | cons hfirst _ ih =>
    cases hother with
    | cons hfirst' hrest' =>
      obtain ⟨rfl, rfl⟩ := hfirst.unique hfirst'
      rw [ih hrest']

/-- The aliases that have not been seen are pending. -/
def ArePending (table : SchemaTable) (seen pending : List String) : Prop :=
  ∀ name, name ∈ pending ↔ name ∈ aliasNames table ∧ name ∉ seen

theorem ArePending.mark {seen pending : List String} (h : ArePending table seen pending)
    (name : String) : ArePending table (name :: seen) (withoutName pending name) := by
  intro other
  rw [mem_withoutName, h, List.mem_cons, not_or, and_assoc, and_comm (a := other ∉ seen)]

/-- A visit orders the chain of pending aliases from its end, and has seen these aliases then. -/
theorem exists_visits {seen pending : List String} (h : ArePending table seen pending)
    {name : String} (hname : name ∈ aliasNames table) :
    ∃ later, Visits table seen name later (aliasChain table pending name).reverse ∧
      ∀ other, other ∈ later ↔ other ∈ aliasChain table pending name ∨ other ∈ seen := by
  induction pending, name using aliasChain.induct generalizing seen with
  | case1 pending name hpending _ ih =>
    have hnew : name ∉ seen := ((h name).mp hpending).2
    rw [aliasChain_of_mem hpending]
    by_cases hnext : ∃ next, RefersTo table name next ∧ next ∈ aliasNames table
    · obtain ⟨next, hrefers, hnext⟩ := hnext
      obtain ⟨later, hvisit, hseen⟩ := ih next (h.mark name) hnext
      refine ⟨later, ?_, fun other ↦ ?_⟩
      · rw [hrefers, Option.elim_some, List.reverse_cons]
        exact .onward hnew hrefers hnext hvisit
      · rw [hrefers, Option.elim_some, hseen, List.mem_cons, List.mem_cons, or_left_comm, or_assoc]
    · have hlast : ∀ next, RefersTo table name next → next ∉ aliasNames table :=
        fun next hrefers hmem ↦ hnext ⟨next, hrefers, hmem⟩
      -- what is no alias is not pending, so the chain ends here
      have hchain : (nextAlias? table name).elim []
          (aliasChain table (withoutName pending name)) = [] := by
        cases hrefers : nextAlias? table name with
        | none => rfl
        | some next =>
          apply aliasChain_of_not_mem
          intro hmem
          exact hlast next hrefers ((h next).mp (mem_withoutName.mp hmem).1).1
      refine ⟨name :: seen, ?_, fun other ↦ ?_⟩
      · rw [hchain]
        exact .last hnew hlast
      · rw [hchain, List.mem_cons, List.mem_singleton]
  | case2 pending name hpending =>
    have hseen : name ∈ seen := by
      by_contra hnew
      exact hpending ((h name).mpr ⟨hname, hnew⟩)
    refine ⟨seen, ?_, fun other ↦ ?_⟩
    · rw [aliasChain_of_not_mem hpending]
      exact .seen hseen
    · simp [aliasChain_of_not_mem hpending]

theorem visitsAll_of_arePending {seen pending names : List String}
    (h : ArePending table seen pending) (hnames : names ⊆ aliasNames table) :
    VisitsAll table seen names (orderAliases table pending names) := by
  induction names generalizing seen pending with
  | nil => exact .nil
  | cons name rest ih =>
    obtain ⟨hname, hrest⟩ := List.cons_subset.mp hnames
    obtain ⟨later, hvisit, hseen⟩ := exists_visits h hname
    rw [orderAliases]
    refine .cons hvisit (ih (fun other ↦ ?_) hrest)
    simp only [List.mem_filter, h other, hseen other, Bool.not_eq_true', List.contains_eq_mem,
      decide_eq_false_iff_not, not_or]
    tauto

/-- The recursion through all aliases of a table ends, and orders them in one way only. -/
theorem visitsAll_iff {order : List String} :
    VisitsAll table [] (aliasNames table) order ↔
      order = orderAliases table (aliasNames table) (aliasNames table) := by
  have hall : VisitsAll table [] (aliasNames table)
      (orderAliases table (aliasNames table) (aliasNames table)) :=
    visitsAll_of_arePending (fun name ↦ by simp) (List.Subset.refl _)
  constructor
  · intro h
    exact h.unique hall
  · rintro rfl
    exact hall

/-! ## What closes a cycle -/

/-- On a chain, each alias but the last refers to the one behind it. -/
theorem refersTo_of_aliasChain {pending before after : List String} {start name next : String}
    (h : aliasChain table pending start = before ++ name :: next :: after) :
    RefersTo table name next := by
  induction pending, start using aliasChain.induct generalizing before with
  | case1 pending start hstart _ ih =>
    rw [aliasChain_of_mem hstart] at h
    cases hnext : nextAlias? table start with
    | none =>
      rw [hnext, Option.elim_none] at h
      simp [List.singleton_eq_append_iff] at h
    | some second =>
      rw [hnext, Option.elim_some] at h
      cases before with
      | nil =>
        obtain ⟨rfl, hrest⟩ := List.cons_eq_cons.mp h
        -- the chain from the second alias begins with it
        by_cases hsecond : second ∈ withoutName pending start
        · rw [aliasChain_of_mem hsecond] at hrest
          obtain ⟨rfl, -⟩ := List.cons_eq_cons.mp hrest
          exact hnext
        · rw [aliasChain_of_not_mem hsecond] at hrest
          cases hrest
      | cons first between => exact ih second (List.cons_eq_cons.mp h).2
  | case2 pending start hstart => simp [aliasChain_of_not_mem hstart] at h

/-- A chain does not leave a pending alias out that one of its own refers to. -/
theorem mem_aliasChain_of_refersTo {pending : List String} {start name next : String}
    (h : name ∈ aliasChain table pending start) (hrefers : RefersTo table name next)
    (hpending : next ∈ pending) : next ∈ aliasChain table pending start := by
  induction pending, start using aliasChain.induct with
  | case1 pending start hstart _ ih =>
    rw [aliasChain_of_mem hstart] at h ⊢
    by_cases hne : next = start
    · exact hne ▸ List.mem_cons_self ..
    have hleft : next ∈ withoutName pending start := mem_withoutName.mpr ⟨hpending, hne⟩
    apply List.mem_cons_of_mem
    rcases List.mem_cons.mp h with rfl | h
    · rw [hrefers, Option.elim_some, aliasChain_of_mem hleft]
      exact List.mem_cons_self ..
    · cases hsecond : nextAlias? table start with
      | none => simp [hsecond] at h
      | some second =>
        rw [hsecond, Option.elim_some] at h
        exact ih second h hleft
  | case2 pending start hstart => simp [aliasChain_of_not_mem hstart] at h

/-- Aliases that are not pending refer to none that are. -/
def IsDone (table : SchemaTable) (pending : List String) : Prop :=
  ∀ name next, name ∉ pending → RefersTo table name next → next ∉ pending

theorem IsDone.not_mem {pending : List String} (h : IsDone table pending) {name other : String}
    (hname : name ∉ pending) (hpath : ReflTransGen (RefersTo table) name other) :
    other ∉ pending := by
  induction hpath with
  | refl => exact hname
  | tail _ hrefers ih => exact h _ _ ih hrefers

theorem IsDone.chain {pending : List String} (h : IsDone table pending) (start : String) :
    IsDone table (pending.filter fun n ↦ !(aliasChain table pending start).contains n) := by
  intro name next hname hrefers hnext
  obtain ⟨hpending, hchain⟩ := List.mem_filter.mp hnext
  have hout : next ∉ aliasChain table pending start := by simpa using hchain
  have hmem : name ∈ pending := by
    by_contra hdone
    exact h name next hdone hrefers hpending
  have hon : name ∈ aliasChain table pending start := by
    by_contra hleft
    exact hname (List.mem_filter.mpr ⟨hmem, by simpa using hleft⟩)
  exact hout (mem_aliasChain_of_refersTo hon hrefers hpending)

/-- Where something comes before an alias and leads to it, so does what the alias refers to. -/
theorem mem_before_of_leads {pending names before after : List String} {name next other : String}
    (hdone : IsDone table pending) (h : orderAliases table pending names = before ++ name :: after)
    (hrefers : RefersTo table name next) (hother : other ∈ before)
    (hpath : ReflTransGen (RefersTo table) other name) : next ∈ before := by
  induction names generalizing pending before with
  | nil => simp [orderAliases] at h
  | cons first rest ih =>
    rcases split_of_orderAliases h with ⟨more, hchain⟩ | ⟨between, hbefore, hrest⟩
    · -- something comes before the alias on its chain, so the alias is not the last one there
      cases hreverse : before.reverse with
      | nil => simp [List.reverse_eq_nil_iff.mp hreverse] at hother
      | cons second others =>
        rw [hreverse] at hchain
        obtain rfl := hrefers.unique (refersTo_of_aliasChain hchain)
        have hsecond : next ∈ before.reverse := hreverse ▸ List.mem_cons_self ..
        exact List.mem_reverse.mp hsecond
    · have hname : name ∈ orderAliases table (pending.filter fun n ↦
          !(aliasChain table pending first).contains n) rest := by
        rw [hrest]
        simp
      have hleft := orderAliases_subset _ _ hname
      rw [hbefore, List.mem_append, List.mem_reverse] at hother ⊢
      rcases hother with hother | hother
      · -- the chain has been left for good
        have hgone : other ∉ pending.filter fun n ↦
            !(aliasChain table pending first).contains n := by
          simp [hother]
        exact absurd hleft ((hdone.chain first).not_mem hgone hpath)
      · exact .inr (ih (hdone.chain first) hrest hother)

/-- What refers to something is an alias. -/
theorem RefersTo.mem_aliasNames {name next : String} (h : RefersTo table name next) :
    name ∈ aliasNames table := by
  rw [RefersTo, nextAlias?, Option.bind_eq_some_iff] at h
  obtain ⟨schema, hfind, htarget⟩ := h
  have hentry : (name, schema) ∈ table := Named.mem_of_find? hfind
  exact List.mem_map_of_mem (List.mem_filter.mpr
    ⟨hentry, by simp [isClass_of_aliasTarget? htarget]⟩)

theorem isDone_aliasNames (table : SchemaTable) : IsDone table (aliasNames table) :=
  fun _ _ hname hrefers ↦ absurd hrefers.mem_aliasNames hname

/-- What an alias on a cycle refers to is on the cycle, too. -/
theorem RefersTo.reflTransGen_of_cycle {name next : String} (h : RefersTo table name next)
    (hcycle : TransGen (RefersTo table) name name) : ReflTransGen (RefersTo table) next name := by
  obtain ⟨second, hsecond, hpath⟩ := TransGen.head'_iff.mp hcycle
  exact h.unique hsecond ▸ hpath

/-- On a cycle, some alias comes before the one that it refers to. -/
theorem exists_not_mem_before {before after : List String} {name : String}
    (horder : orderAliases table (aliasNames table) (aliasNames table) = before ++ name :: after)
    (hcycle : TransGen (RefersTo table) name name) :
    ∃ earlier last later next,
      orderAliases table (aliasNames table) (aliasNames table) = earlier ++ last :: later ∧
        ReflTransGen (RefersTo table) name last ∧ ReflTransGen (RefersTo table) last name ∧
          RefersTo table last next ∧ next ∉ earlier := by
  induction hlength : before.length using Nat.strong_induction_on generalizing before name after
    with
  | _ length ih =>
    obtain ⟨next, hrefers, hback⟩ := TransGen.head'_iff.mp hcycle
    by_cases hbefore : next ∈ before
    · obtain ⟨first, between, rfl⟩ := List.append_of_mem hbefore
      rw [List.append_assoc, List.cons_append] at horder
      have hshorter : first.length < length := by
        rw [← hlength, List.length_append, List.length_cons]
        omega
      obtain ⟨earlier, last, later, second, hlast, hto, hfrom, hcloses⟩ :=
        ih _ hshorter horder (.tail' hback hrefers) rfl
      exact ⟨earlier, last, later, second, hlast, .head hrefers hto, hfrom.trans hback, hcloses⟩
    · exact ⟨before, name, after, next, horder, .refl, .refl, hrefers, hbefore⟩

/-- On a cycle, only one alias comes before the one that it refers to. -/
theorem eq_of_not_mem_before {before after earlier later : List String}
    {name next last second : String}
    (horder : orderAliases table (aliasNames table) (aliasNames table) = before ++ name :: after)
    (hlast : orderAliases table (aliasNames table) (aliasNames table) = earlier ++ last :: later)
    (hto : ReflTransGen (RefersTo table) name last)
    (hfrom : ReflTransGen (RefersTo table) last name)
    (hrefers : RefersTo table name next) (hnext : next ∉ before)
    (hsecond : RefersTo table last second) (hcloses : second ∉ earlier) : last = name := by
  have hbefore : last ∉ before := fun hmem ↦
    hnext (mem_before_of_leads (isDone_aliasNames table) horder hrefers hmem hfrom)
  have hearlier : name ∉ earlier := fun hmem ↦
    hcloses (mem_before_of_leads (isDone_aliasNames table) hlast hsecond hmem hto)
  rcases List.append_eq_append_iff.mp (horder.symm.trans hlast) with
    ⟨between, hsplit, hrest⟩ | ⟨between, hsplit, hrest⟩
  · cases between with
    | nil => exact (List.cons_eq_cons.mp hrest).1.symm
    | cons first more =>
      obtain ⟨rfl, -⟩ := List.cons_eq_cons.mp hrest
      exact absurd (hsplit ▸ by simp) hearlier
  · cases between with
    | nil => exact (List.cons_eq_cons.mp hrest).1
    | cons first more =>
      obtain ⟨rfl, -⟩ := List.cons_eq_cons.mp hrest
      exact absurd (hsplit ▸ by simp) hbefore

/-! ## References in annotations of aliases -/

theorem componentType_element (expression : Option String) :
    (componentType expression).element = componentType expression := by
  unfold componentType
  split
  · rfl
  · split <;> rfl

/-- The reference that an alias consists of is rendered by the expression for its component. -/
theorem element_render {components : ComponentNames} {inModel : Bool} {schema : Schema}
    {target : String} (h : aliasTarget? schema = some target) (hint : String) (scope : ModelScope) :
    (schema.render components inModel hint scope).1.element =
      componentType (components inModel target) := by
  induction schema using aliasTarget?.induct generalizing hint with
  | case1 nullable name =>
    obtain rfl : name = target := Option.some.inj h
    rw [Schema.render, TypeExpr.element_orNoneIf, componentType_element]
  | case2 nullable items ih =>
    rw [Schema.render, TypeExpr.element_orNoneIf, TypeExpr.element]
    exact ih h (hint ++ "Item")
  | case3 schema href harray =>
    rw [aliasTarget?.eq_3 schema href harray] at h
    cases h

mutual
/-- Inside a class, only the expressions for components inside classes matter. -/
theorem render_inModel (components : ComponentNames) : (schema : Schema) → (hint : String) →
    (scope : ModelScope) → schema.render components true hint scope =
      schema.render (fun _ ↦ components true) true hint scope
  | .array nullable items, hint, scope => by
    rw [Schema.render, Schema.render, render_inModel components items]
  | .object nullable [], hint, scope => by rw [Schema.render, Schema.render]
  | .object nullable (property :: rest), hint, scope => by
    simp only [Schema.render]
    rw [renderFields_inModel components (property :: rest)]
  | .string .., _, _ | .number .., _, _ | .boolean _, _, _ | .enumeration .., _, _
  | .ref .., _, _ | .unknown _, _, _ => by rw [Schema.render, Schema.render]
termination_by structural schema => schema
theorem renderFields_inModel (components : ComponentNames) :
    (properties : List (String × Bool × Schema)) → (className : String) →
    (names : List (String × String)) → (scope : ModelScope) →
    Schema.renderFields components className properties names scope =
      Schema.renderFields (fun _ ↦ components true) className properties names scope
  | [], _, _, _ => rfl
  | (property, required, schema) :: rest, className, names, scope => by
    simp only [Schema.renderFields]
    rw [render_inModel components schema, renderFields_inModel components rest]
termination_by structural properties => properties
end

/-- Without a reference outside of classes, only the expressions for components inside classes
matter. -/
theorem render_of_aliasTarget?_eq_none (components : ComponentNames) :
    (schema : Schema) → aliasTarget? schema = none → (hint : String) → (scope : ModelScope) →
    schema.render components false hint scope =
      schema.render (fun _ ↦ components true) false hint scope
  | .array nullable items, h, hint, scope => by
    rw [Schema.render, Schema.render, render_of_aliasTarget?_eq_none components items h]
  | .object nullable [], _, hint, scope => by rw [Schema.render, Schema.render]
  | .object nullable (property :: rest), _, hint, scope => by
    simp only [Schema.render]
    rw [renderFields_inModel components (property :: rest)]
  | .string .., _, _, _ | .number .., _, _, _ | .boolean _, _, _, _ | .enumeration .., _, _, _
  | .unknown _, _, _, _ => by rw [Schema.render, Schema.render]

/-- The annotation that the reference of an alias has in a module. -/
def ComponentModule.RefersBy (table : SchemaTable) (components : ComponentModule)
    (component : String) (type : TypeExpr) : Prop :=
  ∃ a ∈ components.aliases, a.name = nameIn table component ∧ a.type.element = type

section Module

variable (h : (Named.names table).Nodup) {component target : String} {before after : List String}

include h

/-- What an alias refers to is written by the expression that it has behind the aliases before it.
-/
theorem refersBy_iff {type : TypeExpr}
    (horder : orderAliases table (aliasNames table) (aliasNames table) =
      before ++ component :: after)
    (hrefers : RefersTo table component target) :
    (moduleOf table).RefersBy table component type ↔
      componentType (visibleComponents (classNames (Named.names table))
        (Named.names (classEntries table)) before.reverse false target) = type := by
  rw [RefersTo, nextAlias?, Option.bind_eq_some_iff] at hrefers
  obtain ⟨schema, hfind, htarget⟩ := hrefers
  have hentry := Named.mem_of_find? hfind
  have hall {a : Alias} (ha : a ∈ (moduleOf table).aliases)
      (hname : a.name = nameIn table component) :
      a.type.element = componentType (visibleComponents (classNames (Named.names table))
        (Named.names (classEntries table)) before.reverse false target) := by
    obtain ⟨first, last, hsplit, hint, scope, htype, -⟩ :=
      exists_isRendered_of_alias h hentry ha hname
    obtain rfl : first = before := by
      have hnodup : (orderAliases table (aliasNames table) (aliasNames table)).Nodup :=
        orderAliases_nodup _ _
      rw [horder, List.nodup_append] at hnodup
      obtain ⟨-, hafter, hapart⟩ := hnodup
      have hbefore : component ∉ before := fun hmem ↦
        hapart component hmem component (List.mem_cons_self ..) rfl
      exact ((List.append_cons_inj_of_notMem hbefore (List.nodup_cons.mp hafter).1).mp
        (horder.symm.trans hsplit)).1.symm
    rw [htype, TypeExpr.orNoneIf, if_neg Bool.false_ne_true, element_render htarget]
  constructor
  · rintro ⟨a, ha, hname, rfl⟩
    exact (hall ha hname).symm
  · rintro rfl
    obtain ⟨a, ha, hname⟩ := exists_alias_of_not_isClass hentry (isClass_of_aliasTarget? htarget)
    exact ⟨a, ha, hname, hall ha hname⟩

/-- An alias loses its reference to another one unless this comes before it. -/
theorem refersBy_any_iff
    (horder : orderAliases table (aliasNames table) (aliasNames table) =
      before ++ component :: after)
    (hrefers : RefersTo table component target) (htarget : target ∈ aliasNames table) :
    (moduleOf table).RefersBy table component .any ↔ target ∉ before := by
  have hclass : target ∉ Named.names (classEntries table) := fun hmem ↦
    (List.nodup_append.mp ((entries_perm table).nodup_iff.mpr h)).2.2 _ hmem _ htarget rfl
  have hmem : target ∈ Named.names table :=
    (entries_perm table).mem_iff.mp (List.mem_append_right _ htarget)
  rw [refersBy_iff h horder hrefers]
  constructor
  · intro hany hbefore
    rw [componentType_of_visible hmem fun _ ↦ .inr (List.mem_reverse.mpr hbefore)] at hany
    cases hany
  · intro hbefore
    rw [visibleComponents, if_neg (by simp [hclass, hbefore]), componentType]

/-- A reference of an alias is written by name, or else it is to nothing or on a cycle. -/
theorem type_of_refersBy
    (horder : orderAliases table (aliasNames table) (aliasNames table) =
      before ++ component :: after)
    (hrefers : RefersTo table component target) {type : TypeExpr}
    (htype : (moduleOf table).RefersBy table component type) :
    type = .named (nameIn table target) ∧ target ∈ Named.names table ∨
      type = .any ∧
        (target ∉ Named.names table ∨ TransGen (RefersTo table) component component) := by
  rcases componentType_visibleComponents table before.reverse false target with hany | hnamed
  · obtain rfl := hany.symm.trans ((refersBy_iff h horder hrefers).mp htype)
    refine .inr ⟨rfl, ?_⟩
    by_contra! hlost
    obtain ⟨hmem, hcycle⟩ := hlost
    have halias : target ∈ aliasNames table := by
      rcases List.mem_append.mp ((entries_perm table).mem_iff.mpr hmem) with hclass | halias
      · rw [componentType_of_visible hmem fun _ ↦ .inl hclass] at hany
        cases hany
      · exact halias
    have hbefore : target ∈ before := mem_before_of_orderAliases horder hrefers halias
      fun hback ↦ hcycle (.head' hrefers hback)
    exact (refersBy_any_iff h horder hrefers halias).mp htype hbefore
  · exact .inl ⟨((refersBy_iff h horder hrefers).mp htype).symm.trans hnamed.2, hnamed.1⟩

/-- The references in the classes of an alias without a reference of its own are written by name.
-/
theorem eachReference_of_alias {schema : Schema} {a : Alias}
    (hentry : (component, schema) ∈ table) (hnone : aliasTarget? schema = none)
    (ha : a ∈ (moduleOf table).aliases) (hname : a.name = nameIn table component) :
    EachReference (fun target name? ↦
      target ∈ Named.names table → name? = some (nameIn table target))
      (moduleOf table).models schema a.type := by
  obtain ⟨before, _, _, hint, scope, htype, hmodels⟩ :=
    exists_isRendered_of_alias h hentry ha hname
  rw [render_of_aliasTarget?_eq_none _ _ hnone] at htype hmodels
  rw [htype, Schema.eachReference_orNoneIf]
  refine Schema.eachReference_render false hint schema (fun target _ _ hmem ↦ ?_) scope hmodels
  rw [componentType_of_visible hmem (fun hout ↦ by cases hout), TypeExpr.name?]

end Module

/-! ## The whole module -/

/-- A module whose aliases lose as few references as they can. The aliases are those that the
recursion through references orders, which ends. What an alias refers to is written by its name; it
may be anything only if it is missing or the alias is on a cycle, and on each cycle this happens
once. All references in the classes of an alias are written by name. -/
structure ComponentModule.LosesLittle (table : SchemaTable) (components : ComponentModule) :
    Prop where
  order : ∃ order, (∀ other, VisitsAll table [] (aliasNames table) other ↔ other = order) ∧
    order.Perm (aliasNames table) ∧
      components.aliases.map Alias.name = order.map (nameIn table)
  reference : ∀ component target, RefersTo table component target →
    ∃ type, (∀ other, components.RefersBy table component other ↔ other = type) ∧
      (type = .named (nameIn table target) ∧ target ∈ Named.names table ∨
        type = .any ∧
          (target ∉ Named.names table ∨ TransGen (RefersTo table) component component))
  cycle : ∀ component, TransGen (RefersTo table) component component →
    ∃! last, (TransGen (RefersTo table) component last ∧
      TransGen (RefersTo table) last component) ∧ components.RefersBy table last .any
  inner : ∀ component schema, (component, schema) ∈ table → isClass schema = false →
    aliasTarget? schema = none →
      ∃ a ∈ components.aliases, a.name = nameIn table component ∧
        EachReference (fun target name? ↦
          target ∈ Named.names table → name? = some (nameIn table target))
          components.models schema a.type

/-- What refers to something has a place in the order. -/
theorem RefersTo.exists_order {component target : String}
    (h : RefersTo table component target) :
    ∃ before after, orderAliases table (aliasNames table) (aliasNames table) =
      before ++ component :: after :=
  List.append_of_mem (mem_orderAliases h.mem_aliasNames h.mem_aliasNames)

/-- On every cycle, one reference is lost. -/
theorem existsUnique_refersBy_any (h : (Named.names table).Nodup) {component : String}
    (hcycle : TransGen (RefersTo table) component component) :
    ∃! last, (TransGen (RefersTo table) component last ∧
      TransGen (RefersTo table) last component) ∧
        (moduleOf table).RefersBy table last .any := by
  -- what an alias on a cycle refers to is an alias itself
  have hmem {name next : String} (hname : RefersTo table name next)
      (hback : TransGen (RefersTo table) name name) : next ∈ aliasNames table := by
    obtain ⟨second, hsecond, -⟩ :=
      TransGen.head'_iff.mp (TransGen.tail' (hname.reflTransGen_of_cycle hback) hname)
    exact hsecond.mem_aliasNames
  obtain ⟨target, hrefers, -⟩ := TransGen.head'_iff.mp hcycle
  obtain ⟨before, after, horder⟩ := hrefers.exists_order
  obtain ⟨earlier, last, later, next, hlast, hto, hfrom, hnext, hcloses⟩ :=
    exists_not_mem_before horder hcycle
  have hround : TransGen (RefersTo table) last last := (hcycle.trans_right hfrom).trans_left hto
  refine ⟨last, ⟨⟨hcycle.trans_left hto, hcycle.trans_right hfrom⟩,
    (refersBy_any_iff h hlast hnext (hmem hnext hround)).mpr hcloses⟩, ?_⟩
  rintro other ⟨⟨hthere, hback⟩, hany⟩
  obtain ⟨second, hsecond, -⟩ := TransGen.head'_iff.mp (hback.trans hthere)
  obtain ⟨first, rest, hother⟩ := hsecond.exists_order
  exact eq_of_not_mem_before hlast hother (hfrom.trans hthere.to_reflTransGen)
    (hback.to_reflTransGen.trans hto) hnext hcloses hsecond
    ((refersBy_any_iff h hother hsecond (hmem hsecond (hback.trans hthere))).mp hany)

/-- Every table of distinct names makes a module whose aliases lose a reference only where it is to
nothing, and one on each cycle. -/
theorem moduleOf_losesLittle {table : SchemaTable} (h : (Named.names table).Nodup) :
    (moduleOf table).LosesLittle table := by
  have hnodup : (aliasNames table).Nodup :=
    (List.nodup_append.mp ((entries_perm table).nodup_iff.mpr h)).2.1
  constructor
  · exact ⟨_, fun _ ↦ visitsAll_iff, orderAliases_perm hnodup, map_name_renderAliases⟩
  · intro component target hrefers
    obtain ⟨before, after, horder⟩ := hrefers.exists_order
    refine ⟨_, fun other ↦ (refersBy_iff h horder hrefers).trans eq_comm,
      type_of_refersBy h horder hrefers ((refersBy_iff h horder hrefers).mpr rfl)⟩
  · exact fun component hcycle ↦ existsUnique_refersBy_any h hcycle
  · intro component schema hentry hclass hnone
    obtain ⟨a, ha, hname⟩ := exists_alias_of_not_isClass hentry hclass
    exact ⟨a, ha, hname, eachReference_of_alias h hentry hnone ha hname⟩

/-- A table with an alias of itself, a cycle of two aliases with one that leads into it, a reference
to a component that is missing, a class, and an alias whose items refer back to it. -/
def loopTable : SchemaTable :=
  [("Self", .array false (.ref true "Self")),
    ("Tail", .ref false "Left"),
    ("Left", .array true (.ref false "Right")),
    ("Right", .ref true "Left"),
    ("Lost", .array false (.ref true "Gone")),
    ("Item", .object false [("rest", false, .ref false "Items")]),
    ("Items", .array false (.ref true "Item")),
    ("Rows", .array false (.object false [("row", true, .ref false "Rows")]))]

/-- Both cycles lose one reference, and so does the one to a component that is missing. -/
theorem loopTable_losesLittle :
    (Named.names loopTable).Nodup ∧ (moduleOf loopTable).LosesLittle loopTable ∧
      (moduleOf loopTable).aliases.map (fun a ↦ (a.name, a.type.text)) =
        [("Self", "list[Any]"), ("Right", "Any"), ("Left", "Optional[list[Right]]"),
          ("Tail", "Left"), ("Lost", "list[Any]"), ("Items", "list[Optional[Item]]"),
          ("Rows", "list[RowsItem]")] :=
  ⟨by decide, moduleOf_losesLittle (by decide), by decide +kernel⟩

end Package

end ApiCompiler
