import ApiCompiler.Proofs.Named
import ApiCompiler.Schema.Table
import Mathlib.Data.List.Nodup
import Mathlib.Data.List.Perm.Subperm

/-!
# Where references to components end

The schema of a component may be a reference to a further component, and so on, in a chain that may
be of any length and may close to a circle, at once or later. A chain that names no component twice
is no longer than the table. Following a reference arrives at the first schema that is none; where
the chain leaves the table or comes back to a name that it has followed, it gives the unknown schema
with the flag of the last reference. So it never gives a reference.
-/

namespace ApiCompiler.Schema

variable {table : SchemaTable} {schema next final result : Schema} {names : List String}
  {name : String} {nullable : Bool}

/-- Whether a schema is a reference. -/
def isReference : Schema → Bool
  | ref _ _ => true
  | _ => false

/-- A schema leads to another one by the names of some components, each of which is what the
reference before it names. -/
inductive Chain (table : SchemaTable) : Schema → List String → Schema → Prop
  | nil (schema : Schema) : Chain table schema [] schema
  | cons {nullable : Bool} {name : String} {next final : Schema} {names : List String}
      (found : Named.find? table name = some next) (tail : Chain table next names final) :
      Chain table (.ref nullable name) (name :: names) final

/-- What stands at the end of the chain of a schema: the first schema that is no reference, or the
unknown schema with the flag of a reference that the chain does not go beyond. -/
inductive EndsAt (table : SchemaTable) (schema : Schema) : Schema → Prop
  | arrives {names : List String} {final : Schema} (chain : Chain table schema names final)
      (no_reference : final.isReference = false) : EndsAt table schema final
  | leaves {names : List String} {nullable : Bool} {name : String}
      (chain : Chain table schema names (.ref nullable name))
      (missing : Named.find? table name = none) : EndsAt table schema (.unknown nullable)
  | returns {names : List String} {nullable : Bool} {name : String}
      (chain : Chain table schema names (.ref nullable name)) (nodup : names.Nodup)
      (mem : name ∈ names) : EndsAt table schema (.unknown nullable)

namespace Chain

theorem subset_names (h : Chain table schema names final) : names ⊆ Named.names table := by
  induction h with
  | nil => exact List.nil_subset _
  | @cons _ name next _ _ hfound _ ih =>
    have hname : name ∈ Named.names table :=
      List.mem_map.mpr ⟨(name, next), Named.mem_of_find? hfound, rfl⟩
    exact List.cons_subset.mpr ⟨hname, ih⟩

/-- A chain that names no component twice is no longer than the table. -/
theorem length_le (h : Chain table schema names final) (hnodup : names.Nodup) :
    names.length ≤ table.length := by
  have hlength : names.length ≤ (Named.names table).length :=
    hnodup.length_le_of_subset h.subset_names
  rwa [Named.names, List.length_map] at hlength

/-- A chain goes on from each component that it names. -/
theorem exists_tail_of_mem (h : Chain table schema names final) (hmem : name ∈ names)
    (hfound : Named.find? table name = some next) :
    ∃ rest, name :: rest <:+ names ∧ Chain table next rest final := by
  induction h with
  | nil => exact absurd hmem List.not_mem_nil
  | cons hfirst htail ih =>
    rcases List.mem_cons.mp hmem with rfl | hrest
    · cases hfirst.symm.trans hfound
      exact ⟨_, List.suffix_refl _, htail⟩
    · obtain ⟨rest, hsuffix, hchain⟩ := ih hrest
      exact ⟨rest, hsuffix.trans (List.suffix_cons ..), hchain⟩

/-- Where a chain leads, one without repetition leads: what lies between two visits of a component
is left out. -/
theorem exists_nodup (h : Chain table schema names final) :
    ∃ path, path.Nodup ∧ Chain table schema path final := by
  induction h with
  | nil schema => exact ⟨[], List.nodup_nil, .nil schema⟩
  | @cons _ name _ _ _ hfound _ ih =>
    obtain ⟨path, hnodup, hchain⟩ := ih
    by_cases hmem : name ∈ path
    · obtain ⟨rest, hsuffix, hrest⟩ := hchain.exists_tail_of_mem hmem hfound
      exact ⟨name :: rest, hnodup.sublist hsuffix.sublist, .cons hfound hrest⟩
    · exact ⟨name :: path, List.nodup_cons.mpr ⟨hmem, hnodup⟩, .cons hfound hchain⟩

/-- A chain that does not name a component needs no entry for it. -/
theorem without (h : Chain table schema names final) (hnot : name ∉ names) :
    Chain (Named.without table name) schema names final := by
  induction h with
  | nil schema => exact .nil schema
  | cons hfound _ ih =>
    obtain ⟨hne, hrest⟩ := List.ne_and_not_mem_of_not_mem_cons hnot
    refine .cons ?_ (ih hrest)
    rwa [Named.find?_without, if_neg (Ne.symm hne)]

/-- The chains of a table without an entry are those that do not name it. -/
theorem without_iff : Chain (Named.without table name) schema names final ↔
    Chain table schema names final ∧ name ∉ names := by
  constructor
  · intro h
    induction h with
    | nil schema => exact ⟨.nil schema, List.not_mem_nil⟩
    | cons hfound _ ih =>
      rw [Named.find?_without] at hfound
      split at hfound
      · cases hfound
      · next hne => exact ⟨.cons hfound ih.1, List.not_mem_cons_of_ne_of_not_mem (Ne.symm hne) ih.2⟩
  · exact fun h ↦ h.1.without h.2

/-- A chain from a reference stays there, or goes on from its component and does not come back. -/
theorem eq_ref_or_exists_tail (h : Chain table (.ref nullable name) names final)
    (hnodup : names.Nodup) (hfound : Named.find? table name = some next) :
    (names = [] ∧ final = .ref nullable name) ∨
      ∃ rest, names = name :: rest ∧ rest.Nodup ∧
        Chain (Named.without table name) next rest final := by
  cases h with
  | nil => exact .inl ⟨rfl, rfl⟩
  | cons hfirst htail =>
    cases hfirst.symm.trans hfound
    obtain ⟨hnot, hrest⟩ := List.nodup_cons.mp hnodup
    exact .inr ⟨_, rfl, hrest, htail.without hnot⟩

end Chain

/-! ## One step of a chain -/

/-- A schema that is no reference stands at its own end. -/
theorem endsAt_iff_of_isReference_eq_false (h : schema.isReference = false) :
    EndsAt table schema result ↔ result = schema := by
  constructor
  · rintro (⟨hchain, -⟩ | ⟨hchain, -⟩ | ⟨hchain, -, hmem⟩)
    · cases hchain with
      | nil => rfl
      | cons => cases h
    · cases hchain <;> cases h
    · cases hchain <;> cases h
  · rintro rfl
    exact .arrives (.nil result) h

/-- A reference to a missing component is as unknown as its flag says. -/
theorem endsAt_ref_iff_of_eq_none (h : Named.find? table name = none) :
    EndsAt table (.ref nullable name) result ↔ result = .unknown nullable := by
  have hstop {names : List String} {final : Schema}
      (hchain : Chain table (.ref nullable name) names final) :
      names = [] ∧ final = .ref nullable name := by
    cases hchain with
    | nil => exact ⟨rfl, rfl⟩
    | cons hfound => cases h.symm.trans hfound
  constructor
  · rintro (⟨hchain, hfinal⟩ | ⟨hchain, -⟩ | ⟨hchain, -, hmem⟩)
    · obtain ⟨-, rfl⟩ := hstop hchain
      cases hfinal
    · cases (hstop hchain).2
      rfl
    · obtain ⟨rfl, -⟩ := hstop hchain
      exact absurd hmem List.not_mem_nil
  · rintro rfl
    exact .leaves (.nil _) h

/-- What stands at the end of a component's chain, in the table without the component, stands at the
end of a reference to it. -/
theorem EndsAt.of_without (h : Named.find? table name = some next)
    (hend : EndsAt (Named.without table name) next result) :
    EndsAt table (.ref nullable name) result := by
  rcases hend with ⟨hchain, hfinal⟩ | @⟨_, _, other, hchain, hmissing⟩ | ⟨hchain, hnodup, hmem⟩
  · exact .arrives (.cons h (Chain.without_iff.mp hchain).1) hfinal
  · by_cases hother : other = name
    · -- what was missing is the component itself: the chain comes back, and for the first time once
      -- its own repetitions are cut out
      obtain ⟨path, hnodup, hpath⟩ := hchain.exists_nodup
      obtain ⟨hpath, hnot⟩ := Chain.without_iff.mp hpath
      exact .returns (.cons h hpath) (List.nodup_cons.mpr ⟨hnot, hnodup⟩)
        (List.mem_cons.mpr (.inl hother))
    · rw [Named.find?_without, if_neg hother] at hmissing
      exact .leaves (.cons h (Chain.without_iff.mp hchain).1) hmissing
  · obtain ⟨hchain, hnot⟩ := Chain.without_iff.mp hchain
    exact .returns (.cons h hchain) (List.nodup_cons.mpr ⟨hnot, hnodup⟩)
      (List.mem_cons_of_mem _ hmem)

/-- What stands at the end of a reference stands, in the table without its component, at the end of
the component's chain. -/
theorem EndsAt.without (h : Named.find? table name = some next)
    (hend : EndsAt table (.ref nullable name) result) :
    EndsAt (Named.without table name) next result := by
  rcases hend with ⟨hchain, hfinal⟩ | ⟨hchain, hmissing⟩ | ⟨hchain, hnodup, hmem⟩
  · obtain ⟨path, hnodup, hpath⟩ := hchain.exists_nodup
    rcases hpath.eq_ref_or_exists_tail hnodup h with ⟨-, rfl⟩ | ⟨rest, -, -, hrest⟩
    · cases hfinal
    · exact .arrives hrest hfinal
  · obtain ⟨path, hnodup, hpath⟩ := hchain.exists_nodup
    rcases hpath.eq_ref_or_exists_tail hnodup h with ⟨-, hlast⟩ | ⟨rest, -, -, hrest⟩
    · cases hlast
      cases hmissing.symm.trans h
    · refine .leaves hrest ?_
      rw [Named.find?_without, hmissing, ite_self]
  · rcases hchain.eq_ref_or_exists_tail hnodup h with ⟨rfl, -⟩ | ⟨rest, rfl, hnodup, hrest⟩
    · exact absurd hmem List.not_mem_nil
    · rcases List.mem_cons.mp hmem with rfl | hmem
      · refine .leaves hrest ?_
        rw [Named.find?_without, if_pos rfl]
      · exact .returns hrest hnodup hmem

/-- A reference ends where its component does when that must not be followed again. -/
theorem endsAt_ref_iff_of_eq_some (h : Named.find? table name = some next) :
    EndsAt table (.ref nullable name) result ↔
      EndsAt (Named.without table name) next result :=
  ⟨.without h, .of_without h⟩

/-! ## One step of following -/

theorem deref_of_isReference_eq_false (h : schema.isReference = false) :
    deref table schema = schema := by
  cases schema with
  | ref => cases h
  | _ =>
    rw [deref]
    intro _ _ heq
    cases heq

theorem deref_ref_of_eq_none (h : Named.find? table name = none) :
    deref table (.ref nullable name) = .unknown nullable := by
  rw [deref]
  split
  · rfl
  · next hfound => cases h.symm.trans hfound

theorem deref_ref_of_eq_some (h : Named.find? table name = some next) :
    deref table (.ref nullable name) = deref (Named.without table name) next := by
  rw [deref]
  split
  · next hmissing => cases h.symm.trans hmissing
  · next hfound =>
    cases h.symm.trans hfound
    rfl

/-! ## Whole chains -/

/-- Following a schema gives what stands at the end of its chain, and nothing else stands there. -/
theorem endsAt_iff_eq_deref : EndsAt table schema result ↔ result = deref table schema := by
  induction table, schema using deref.induct with
  | case1 table nullable name hmissing =>
    rw [endsAt_ref_iff_of_eq_none hmissing, deref_ref_of_eq_none hmissing]
  | case2 table nullable name next hfound _ ih =>
    rw [endsAt_ref_iff_of_eq_some hfound, deref_ref_of_eq_some hfound]
    exact ih
  | case3 table schema hschema =>
    have hno : schema.isReference = false := by
      cases schema with
      | ref nullable name => exact (hschema nullable name rfl).elim
      | _ => rfl
    rw [endsAt_iff_of_isReference_eq_false hno, deref_of_isReference_eq_false hno]

theorem EndsAt.isReference_eq_false (h : EndsAt table schema result) :
    result.isReference = false := by
  cases h with
  | arrives _ hfinal => exact hfinal
  | leaves => rfl
  | returns => rfl

/-- What a schema leads to leads to itself. -/
theorem deref_deref (table : SchemaTable) (schema : Schema) :
    deref table (deref table schema) = deref table schema :=
  deref_of_isReference_eq_false (endsAt_iff_eq_deref.mpr rfl).isReference_eq_false

/-- A chain that follows no component twice is no longer than the table. Following a schema gives no
reference, but exactly what stands at the end of its chain. -/
theorem deref_isOnlyEnd (table : SchemaTable) (schema : Schema) :
    (∀ names final, Chain table schema names final → names.Nodup →
      names.length ≤ table.length) ∧
    (deref table schema).isReference = false ∧
    ∀ result, result = deref table schema ↔ EndsAt table schema result :=
  ⟨fun _ _ hchain hnodup ↦ hchain.length_le hnodup,
    (endsAt_iff_eq_deref.mpr rfl).isReference_eq_false, fun _ ↦ endsAt_iff_eq_deref.symm⟩

/-- Components of which one leads into a circle of two others, one to a text, and one nowhere. -/
def windingTable : SchemaTable :=
  [("Entry", .ref false "First"), ("First", .ref false "Second"), ("Second", .ref true "First"),
    ("Title", .ref true "Text"), ("Text", .string false {}), ("Lost", .ref true "Absent")]

/-- The circle is found when it comes back to where it was entered. Of the references on the way only
the one back has the flag. -/
theorem deref_windingTable :
    Chain windingTable (.ref false "Entry") ["Entry", "First", "Second"] (.ref true "First") ∧
    ["Entry", "First", "Second"].Nodup ∧
    ["Entry", "First", "Second"].length ≤ windingTable.length ∧
    deref windingTable (.ref false "Entry") = .unknown true ∧
    deref windingTable (.ref true "Title") = .string false {} ∧
    deref windingTable (.ref false "Lost") = .unknown true := by
  have hchain : Chain windingTable (.ref false "Entry") ["Entry", "First", "Second"]
      (.ref true "First") := .cons rfl (.cons rfl (.cons rfl (.nil _)))
  have hnodup : ["Entry", "First", "Second"].Nodup := by decide
  obtain ⟨hlength, -, hcircle⟩ := deref_isOnlyEnd windingTable (.ref false "Entry")
  obtain ⟨-, -, htitle⟩ := deref_isOnlyEnd windingTable (.ref true "Title")
  obtain ⟨-, -, hlost⟩ := deref_isOnlyEnd windingTable (.ref false "Lost")
  refine ⟨hchain, hnodup, hlength _ _ hchain hnodup, ?_, ?_, ?_⟩
  · exact ((hcircle _).mpr (.returns hchain hnodup (by decide))).symm
  · exact ((htitle _).mpr (.arrives (.cons rfl (.cons rfl (.nil _))) rfl)).symm
  · exact ((hlost _).mpr (.leaves (.cons rfl (.nil _)) rfl)).symm

end ApiCompiler.Schema
