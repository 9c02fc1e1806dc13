import ApiCompiler.Package.Components
import Mathlib.Data.List.Perm.Lattice
import Mathlib.Data.List.Nodup
import Mathlib.Logic.Relation

/-!
# The order of aliases

Aliases are ordered by following, from each one that is pending, the chain of pending aliases that
it refers to, and taking that chain from its end. No pending alias is lost or taken twice on the
way, whatever cycles the references form. Outside of cycles, an alias comes after the one that it
refers to.
-/

namespace ApiCompiler.Package

variable {table : SchemaTable}

theorem mem_withoutName {names : List String} {name other : String} :
    other ∈ withoutName names name ↔ other ∈ names ∧ other ≠ name := by
  simp [withoutName]

/-! ## Chains -/

theorem aliasChain_of_not_mem {pending : List String} {name : String} (h : name ∉ pending) :
    aliasChain table pending name = [] := by
  rw [aliasChain, dif_neg h]

theorem aliasChain_of_mem {pending : List String} {name : String} (h : name ∈ pending) :
    aliasChain table pending name =
      name :: (nextAlias? table name).elim [] (aliasChain table (withoutName pending name)) := by
  rw [aliasChain, dif_pos h]
  cases nextAlias? table name <;> rfl

theorem aliasChain_subset (pending : List String) (name : String) :
    aliasChain table pending name ⊆ pending := by
  induction pending, name using aliasChain.induct with
  | case1 pending name h _ ih =>
    rw [aliasChain_of_mem h]
    refine List.cons_subset.mpr ⟨h, ?_⟩
    cases hnext : nextAlias? table name with
    | none => exact List.nil_subset _
    | some next => exact fun other hother ↦ (mem_withoutName.mp (ih next hother)).1
  | case2 pending name h =>
    rw [aliasChain_of_not_mem h]
    exact List.nil_subset _

theorem aliasChain_nodup (pending : List String) (name : String) :
    (aliasChain table pending name).Nodup := by
  induction pending, name using aliasChain.induct with
  | case1 pending name h _ ih =>
    rw [aliasChain_of_mem h]
    cases hnext : nextAlias? table name with
    | none => exact List.nodup_singleton name
    | some next =>
      refine List.nodup_cons.mpr ⟨fun hmem ↦ ?_, ih next⟩
      exact (mem_withoutName.mp (aliasChain_subset _ next hmem)).2 rfl
  | case2 pending name h =>
    rw [aliasChain_of_not_mem h]
    exact List.nodup_nil

/-! ## The whole order -/

/-- Only pending aliases are ordered. -/
theorem orderAliases_subset (pending names : List String) :
    orderAliases table pending names ⊆ pending := by
  induction names generalizing pending with
  | nil => exact List.nil_subset _
  | cons name rest ih =>
    rw [orderAliases]
    refine List.append_subset.mpr ⟨?_, fun other hother ↦ List.mem_of_mem_filter (ih _ hother)⟩
    exact fun other hother ↦ aliasChain_subset pending name (List.mem_reverse.mp hother)

/-- No alias is ordered twice. -/
theorem orderAliases_nodup (pending names : List String) :
    (orderAliases table pending names).Nodup := by
  induction names generalizing pending with
  | nil => exact List.nodup_nil
  | cons name rest ih =>
    rw [orderAliases, List.nodup_append]
    refine ⟨List.nodup_reverse.mpr (aliasChain_nodup pending name), ih _, ?_⟩
    rintro other hchain _ hrest rfl
    have hleft := (List.mem_filter.mp (orderAliases_subset _ rest hrest)).2
    simp [List.mem_reverse.mp hchain] at hleft

/-- Every pending alias that is asked for is ordered. -/
theorem mem_orderAliases {pending names : List String} {name : String} (hname : name ∈ names)
    (hpending : name ∈ pending) : name ∈ orderAliases table pending names := by
  induction names generalizing pending with
  | nil => simp at hname
  | cons first rest ih =>
    rw [orderAliases, List.mem_append, List.mem_reverse]
    by_cases hchain : name ∈ aliasChain table pending first
    · exact .inl hchain
    · rcases List.mem_cons.mp hname with rfl | hname
      · exact .inl (by simp [aliasChain_of_mem hpending])
      · exact .inr (ih hname (List.mem_filter.mpr ⟨hpending, by simp [hchain]⟩))

/-- The order is one of all pending aliases. -/
theorem orderAliases_perm {pending : List String} (h : pending.Nodup) :
    (orderAliases table pending pending).Perm pending := by
  rw [List.perm_ext_iff_of_nodup (orderAliases_nodup pending pending) h]
  exact fun name ↦ ⟨fun hmem ↦ orderAliases_subset pending pending hmem,
    fun hmem ↦ mem_orderAliases hmem hmem⟩

/-! ## What an alias refers to comes first -/

open Relation (ReflTransGen)

/-- An alias that refers to a component. -/
def RefersTo (table : SchemaTable) (name next : String) : Prop :=
  nextAlias? table name = some next

theorem reflTransGen_of_mem_aliasChain {pending : List String} {name other : String}
    (h : other ∈ aliasChain table pending name) : ReflTransGen (RefersTo table) name other := by
  induction pending, name using aliasChain.induct with
  | case1 pending name hpending _ ih =>
    rw [aliasChain_of_mem hpending] at h
    rcases List.mem_cons.mp h with rfl | h
    · exact .refl
    · cases hnext : nextAlias? table name with
      | none => simp [hnext] at h
      | some next =>
        rw [hnext] at h
        exact .head hnext (ih next h)
  | case2 pending name hpending => simp [aliasChain_of_not_mem hpending] at h

/-- On a chain, what an alias refers to follows it if it is pending and does not lead back. -/
theorem mem_after_of_aliasChain {pending before after : List String} {start name next : String}
    (h : aliasChain table pending start = before ++ name :: after)
    (hrefers : RefersTo table name next) (hpending : next ∈ pending)
    (hcycle : ¬ReflTransGen (RefersTo table) next name) : next ∈ after := by
  induction pending, start using aliasChain.induct generalizing before with
  | case1 pending start hstart _ ih =>
    have hne : next ≠ start := by
      rintro rfl
      have hmem : name ∈ aliasChain table pending next := by
        rw [h]
        simp
      exact hcycle (reflTransGen_of_mem_aliasChain hmem)
    have hleft : next ∈ withoutName pending start := mem_withoutName.mpr ⟨hpending, hne⟩
    rw [aliasChain_of_mem hstart] at h
    cases before with
    | nil =>
      obtain ⟨rfl, rfl⟩ := List.cons_eq_cons.mp h
      rw [hrefers, Option.elim_some, aliasChain_of_mem hleft]
      exact List.mem_cons_self ..
    | cons first between =>
      obtain ⟨rfl, hrest⟩ := List.cons_eq_cons.mp h
      cases hnext : nextAlias? table start with
      | none => simp [hnext] at hrest
      | some second =>
        rw [hnext, Option.elim_some] at hrest
        exact ih second hrest hleft
  | case2 pending start hstart => simp [aliasChain_of_not_mem hstart] at h

/-- In the order, an alias stands on the first chain, which is taken from its end, or among those
that are ordered after this chain. -/
theorem split_of_orderAliases {pending rest before after : List String} {first name : String}
    (h : orderAliases table pending (first :: rest) = before ++ name :: after) :
    (∃ more, aliasChain table pending first = more ++ name :: before.reverse) ∨
      ∃ between, before = (aliasChain table pending first).reverse ++ between ∧
        orderAliases table (pending.filter fun n ↦ !(aliasChain table pending first).contains n)
          rest = between ++ name :: after := by
  rw [orderAliases] at h
  rcases List.append_eq_append_iff.mp h with ⟨between, hbefore, hrest⟩ | ⟨between, hbefore, hrest⟩
  · exact .inr ⟨between, hbefore, hrest⟩
  · cases between with
    | nil => exact .inr ⟨[], by simpa using hbefore.symm, hrest.symm⟩
    | cons second more =>
      obtain ⟨rfl, -⟩ := List.cons_eq_cons.mp hrest
      exact .inl ⟨more.reverse, by rw [List.reverse_eq_iff.mp hbefore]; simp⟩

/-- In the order, what an alias refers to comes before it if it is pending and does not lead
back. -/
theorem mem_before_of_orderAliases {pending names before after : List String} {name next : String}
    (h : orderAliases table pending names = before ++ name :: after)
    (hrefers : RefersTo table name next) (hpending : next ∈ pending)
    (hcycle : ¬ReflTransGen (RefersTo table) next name) : next ∈ before := by
  induction names generalizing pending before with
  | nil => simp [orderAliases] at h
  | cons first rest ih =>
    rcases split_of_orderAliases h with ⟨more, hchain⟩ | ⟨between, hbefore, hrest⟩
    · exact List.mem_reverse.mp (mem_after_of_aliasChain hchain hrefers hpending hcycle)
    · rw [hbefore, List.mem_append, List.mem_reverse]
      by_cases hmem : next ∈ aliasChain table pending first
      · exact .inl hmem
      · exact .inr (ih hrest (List.mem_filter.mpr ⟨hpending, by simp [hmem]⟩))

end ApiCompiler.Package
