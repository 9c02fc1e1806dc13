import ApiCompiler.Proofs.Schema.Form
import ApiCompiler.Proofs.Document.Reference
import ApiCompiler.Schema.Table

/-!
# When resolution succeeds

Of all that can stand in a schema node only three things stop its resolution: a value without end, a
pattern that is refused for another reason than its syntax, and a property named by an integer with
too many digits. A resolution fails with the first of them that it meets, whichever names are known;
a node in which it meets none resolves, however malformed the node is. So do the components of a
document that has none of them anywhere.
-/

namespace ApiCompiler

namespace Schema

open Value (Entries Keyed)

/-! ## What is refused -/

/-- Why the pattern of a string node is refused, unless it is kept or dropped. -/
def refusedPattern? (node : Entries) : Option Failure :=
  match declaredType node, node.get? "pattern" with
  | some "string", some (.text s) =>
    ((Pattern.fault? s).filter fun fault ↦ fault != .malformed).map .pattern
  | _, _ => none

/-- Why a key is refused as a name. -/
def refusedKey? : Value → Option Failure
  | .int n => if Text.isTooLong n then some .tooLong else none
  | _ => none

/-- What stops the resolution of a value, in the order in which resolution meets it: a malformed
keyword is nothing of the kind, and neither is anything under a keyword that resolution ignores. -/
def refusals : Value → List Failure
  | .map node =>
    match form node with
    | .array => refusals (itemsOf node)
    | .object => (propertiesOf node).attach.flatMap fun ⟨entry, _⟩ ↦
      (refusedKey? entry.1).toList ++ refusals entry.2
    | .plain => (refusedPattern? node).toList
    | _ => []
  | .endless => [.endless none]
  | _ => []
termination_by v => sizeOf v
decreasing_by
  · exact sizeOf_itemsOf_lt node
  · exact sizeOf_property_lt (by assumption)

theorem refusals_map (node : Entries) :
    refusals (.map node) =
      match form node with
      | .array => refusals (itemsOf node)
      | .object => (propertiesOf node).flatMap fun entry ↦
        (refusedKey? entry.1).toList ++ refusals entry.2
      | .plain => (refusedPattern? node).toList
      | _ => [] := by
  rw [refusals]
  cases form node with
  | object => simp only [List.flatMap_subtype, List.unattach_attach]
  | _ => rfl

/-- What can be refused: a value without end, a key that cannot be written as a name, and a pattern
for another reason than its syntax. -/
inductive IsRefusal : Failure → Prop
  | endless : IsRefusal (.endless none)
  | key : IsRefusal .tooLong
  | pattern {fault : Pattern.Fault} (h : fault ≠ .malformed) : IsRefusal (.pattern fault)

theorem isRefusal_of_refusedPattern? {node : Entries} {failure : Failure}
    (h : refusedPattern? node = some failure) : IsRefusal failure := by
  unfold refusedPattern? at h
  split at h
  · rw [Option.map_eq_some_iff] at h
    obtain ⟨fault, hfault, rfl⟩ := h
    have hne := (Option.filter_eq_some_iff.mp hfault).2
    exact .pattern (by simpa using hne)
  · cases h

theorem isRefusal_of_refusedKey? {key : Value} {failure : Failure}
    (h : refusedKey? key = some failure) : IsRefusal failure := by
  unfold refusedKey? at h
  split at h
  · split at h
    · cases h
      exact .key
    · cases h
  · cases h

theorem isRefusal_of_mem_refusals {node : Value} :
    ∀ failure ∈ refusals node, IsRefusal failure := by
  induction node using node_induction with
  | other v hv =>
    cases v with
    | map node => cases hv
    | endless => simpa [refusals] using IsRefusal.endless
    | _ => simp [refusals]
  | map node ihItems ihProperties =>
    intro failure h
    rw [refusals_map] at h
    split at h
    · exact ihItems failure h
    · obtain ⟨entry, hentry, h⟩ := List.mem_flatMap.mp h
      rcases List.mem_append.mp h with hkey | hvalue
      · exact isRefusal_of_refusedKey? (Option.mem_toList.mp hkey)
      · exact ihProperties entry hentry failure hvalue
    · exact isRefusal_of_refusedPattern? (Option.mem_toList.mp h)
    · cases h

/-! ## How a resolution fails -/

variable {known : Option (List String)}

theorem failure?_ofReference (nullable : Bool) (reference : Value) :
    (ofReference known nullable reference).failure? = none := by
  unfold ofReference
  split
  · split
    · rfl
    · dsimp only
      split <;> rfl
  · rfl

theorem failure?_pattern {node : Entries} (h : declaredType node = some "string") :
    (pattern node).failure? = refusedPattern? node := by
  rw [pattern]
  split
  · next s hs =>
    have hrefused : refusedPattern? node =
        ((Pattern.fault? s).filter fun fault ↦ fault != .malformed).map .pattern := by
      simp only [refusedPattern?, h, hs]
    rw [hrefused]
    cases Pattern.fault? s with
    | none => rfl
    | some fault => cases fault <;> rfl
  · next hs =>
    have hrefused : refusedPattern? node = none := by
      rw [refusedPattern?, h]
      split
      · next s _ heq => exact absurd heq (hs s)
      · rfl
    rw [hrefused]
    rfl

theorem failure?_ofPlain (nullable : Bool) (node : Entries) :
    (ofPlain (declaredType node) nullable node).failure? = refusedPattern? node := by
  unfold ofPlain
  split
  · next hdeclared =>
    calc
      _ = (stringLimits node).failure? := Report.failure?_bind_of_forall _ fun _ ↦ rfl
      _ = (pattern node).failure? := Report.failure?_bind_of_forall _ fun _ ↦ rfl
      _ = refusedPattern? node := failure?_pattern hdeclared
  all_goals
    rw [refusedPattern?]
    simp_all
    rfl

theorem failure?_keyName (key : Value) : (keyName key).failure? = refusedKey? key := by
  cases key with
  | int n =>
    rw [keyName, refusedKey?]
    split <;> rfl
  | _ => rfl

theorem failure?_resolveEach {required : List String} {entries : Entries}
    (h : ∀ entry ∈ entries, (resolve known entry.2).failure? = (refusals entry.2).head?) :
    (resolveEach known required entries).failure? =
      (entries.flatMap fun entry ↦ (refusedKey? entry.1).toList ++ refusals entry.2).head? := by
  induction entries with
  | nil => rfl
  | cons entry rest ih =>
    obtain ⟨hentry, hrest⟩ := List.forall_mem_cons.mp h
    rw [resolveEach, List.flatMap_cons, List.append_assoc]
    apply Report.failure?_bind_eq_head?
    · rw [Option.head?_toList, failure?_keyName]
    · intro name
      apply Report.failure?_bind_eq_head? hentry
      intro schema
      rw [← ih hrest]
      exact Report.failure?_bind_of_forall _ fun _ ↦ rfl

/-- A resolution fails with what is refused first. -/
theorem failure?_resolve (known : Option (List String)) (node : Value) :
    (resolve known node).failure? = (refusals node).head? := by
  induction node using node_induction with
  | other v hv =>
    cases v with
    | map node => cases hv
    | _ =>
      simp only [refusals]
      rfl
  | map node ihItems ihProperties =>
    rw [resolve_map, refusals_map]
    cases form node with
    | reference target => exact failure?_ofReference _ target
    | enumeration values => rfl
    | array =>
      rw [← ihItems]
      exact Report.failure?_bind_of_forall _ fun _ ↦ rfl
    | object =>
      rw [← failure?_resolveEach ihProperties]
      exact Report.failure?_bind_of_forall _ fun _ ↦ rfl
    | plain =>
      rw [Option.head?_toList]
      exact failure?_ofPlain _ node

/-- A node resolves unless something in it is refused. Its resolution then fails with what is
refused first, whichever names are known, and nothing else is ever refused than values without end,
names that cannot be written and patterns for more than their syntax. -/
theorem resolves_iff_refusals_eq_nil (known : Option (List String)) (node : Value) :
    ((∃ schema, (resolve known node).outcome = .ok schema) ↔ refusals node = []) ∧
      (∀ failure, (resolve known node).outcome = .error failure ↔
        (refusals node).head? = some failure) ∧
      ∀ failure ∈ refusals node, IsRefusal failure := by
  refine ⟨?_, ?_, isRefusal_of_mem_refusals⟩
  · rw [← Report.failure?_eq_none_iff, failure?_resolve, List.head?_eq_none_iff]
  · intro failure
    rw [← Report.failure?_eq_some_iff, failure?_resolve]

/-- A string of more characters than a pattern can count. -/
def crowdedString : Entries :=
  [(.text "type", .text "string"), (.text "pattern", .text "a\x7b99999999999\x7d")]

/-- A string with a pattern that is no regular expression. -/
def unclosedString : Entries :=
  [(.text "type", .text "string"), (.text "pattern", .text "(")]

theorem crowdedString_is_refused :
    (∃ failure ∈ refusals (.map crowdedString),
      failure.message = "the repetition number is too large" ∧ IsRefusal failure ∧
        (resolve none (.map crowdedString)).outcome = .error failure) ∧
      ∃ schema, (resolve none (.map unclosedString)).outcome = .ok schema := by
  have hcrowded : (refusals (.map crowdedString)).map Failure.message =
      ["the repetition number is too large"] := by
    rw [refusals_map]
    decide +kernel
  have hunclosed : (refusals (.map unclosedString)).map Failure.message = [] := by
    rw [refusals_map]
    decide +kernel
  constructor
  · obtain ⟨failure, hrefusals, hmessage⟩ := List.map_eq_singleton_iff.mp hcrowded
    have hmem : failure ∈ refusals (.map crowdedString) := by simp [hrefusals]
    have hspec := (resolves_iff_refusals_eq_nil none (.map crowdedString)).2
    exact ⟨failure, hmem, hmessage, hspec.2 failure hmem,
      (hspec.1 failure).mpr (by rw [hrefusals]; rfl)⟩
  · rw [(resolves_iff_refusals_eq_nil none (.map unclosedString)).1]
    exact List.map_eq_nil_iff.mp hunclosed

/-! ## Values in which nothing is refused -/

/-- A value in which nothing is refused itself; its parts may be. -/
def isSettled : Value → Bool
  | .endless => false
  | .map node =>
    (refusedPattern? node).isNone && node.all fun entry ↦ (refusedKey? entry.1).isNone
  | _ => true

/-- A value none of whose parts stops a resolution. -/
def IsResolvable (v : Value) : Prop :=
  ∀ part ∈ v.parts, isSettled part = true

instance (v : Value) : Decidable (IsResolvable v) :=
  inferInstanceAs (Decidable (∀ part ∈ v.parts, isSettled part = true))

theorem IsResolvable.of_subset {v w : Value} (h : IsResolvable v) (hsubset : w.parts ⊆ v.parts) :
    IsResolvable w :=
  fun part hpart ↦ h part (hsubset hpart)

theorem IsResolvable.get? {v w : Value} {key : String} (h : IsResolvable v)
    (hget : v.get? key = some w) : IsResolvable w :=
  h.of_subset (Value.parts_subset_of_get? hget)

theorem IsResolvable.of_mem_entries {entries : Entries} (h : IsResolvable (.map entries)) :
    ∀ entry ∈ entries, IsResolvable entry.2 :=
  fun _ hentry ↦ h.of_subset (Value.parts_subset_of_mem_entries hentry)

theorem IsResolvable.refusedPattern?_eq_none {node : Entries} (h : IsResolvable (.map node)) :
    refusedPattern? node = none := by
  have hsettled := h _ (Value.mem_parts_self _)
  rw [isSettled, Bool.and_eq_true, Option.isNone_iff_eq_none] at hsettled
  exact hsettled.1

theorem IsResolvable.refusedKey?_eq_none {node : Entries} (h : IsResolvable (.map node)) :
    ∀ entry ∈ node, refusedKey? entry.1 = none := by
  have hsettled := h _ (Value.mem_parts_self _)
  rw [isSettled, Bool.and_eq_true, List.all_eq_true] at hsettled
  intro entry hentry
  exact Option.isNone_iff_eq_none.mp (hsettled.2 entry hentry)

theorem isResolvable_null : IsResolvable .null := by
  simp [IsResolvable, Value.parts, isSettled]

theorem isResolvable_empty : IsResolvable (.map []) := by
  decide

theorem IsResolvable.itemsOf {node : Entries} (h : IsResolvable (.map node)) :
    IsResolvable (Schema.itemsOf node) := by
  rw [Schema.itemsOf]
  cases hitems : node.get? "items" with
  | none => exact isResolvable_null
  | some items => exact h.get? hitems

theorem IsResolvable.propertiesOf {node : Entries} (h : IsResolvable (.map node)) :
    IsResolvable (.map (Schema.propertiesOf node)) := by
  rw [Schema.propertiesOf]
  cases hproperties : node.get? "properties" with
  | none => exact isResolvable_empty
  | some properties =>
    cases properties with
    | map entries => exact h.get? hproperties
    | _ => exact isResolvable_empty

/-- Nothing is refused in a value none of whose parts stops a resolution. -/
theorem refusals_eq_nil {node : Value} (h : IsResolvable node) : refusals node = [] := by
  induction node using node_induction with
  | other v hv =>
    cases v with
    | map node => cases hv
    | endless => cases h .endless (Value.mem_parts_self _)
    | _ => simp only [refusals]
  | map node ihItems ihProperties =>
    rw [refusals_map]
    split
    · exact ihItems h.itemsOf
    · rw [List.flatMap_eq_nil_iff]
      intro entry hentry
      rw [h.propertiesOf.refusedKey?_eq_none entry hentry]
      exact ihProperties entry hentry (h.propertiesOf.of_mem_entries entry hentry)
    · rw [h.refusedPattern?_eq_none]
      rfl
    · rfl

theorem failure?_resolve_eq_none (known : Option (List String)) {node : Value}
    (h : IsResolvable node) : (resolve known node).failure? = none := by
  rw [failure?_resolve, refusals_eq_nil h]
  rfl

end Schema

/-! ## Components -/

namespace SchemaTable

theorem failure?_extend {entries : Value.Entries} (h : Schema.IsResolvable (.map entries))
    (table : SchemaTable) : (SchemaTable.extend table entries).failure? = none := by
  have hnodes := h.of_mem_entries
  have hkeys := h.refusedKey?_eq_none
  clear h
  induction entries generalizing table with
  | nil => rfl
  | cons entry rest ih =>
    rw [List.forall_mem_cons] at hnodes hkeys
    rw [SchemaTable.extend]
    apply Report.failure?_bind_eq_none (Schema.failure?_resolve_eq_none none hnodes.1)
    intro schema _
    apply Report.failure?_bind_eq_none
    · rw [Schema.failure?_keyName, hkeys.1]
    · intro name _
      exact ih _ hnodes.2 hkeys.2

/-- The components of a document whose parts all resolve make a table. -/
theorem failure?_ofDocument {document : Value} (h : Schema.IsResolvable document) :
    (SchemaTable.ofDocument document).failure? = none := by
  have hnodes : Schema.IsResolvable (.map (componentNodes document)) := by
    unfold componentNodes
    split
    · next nodes hnodes =>
      rw [Option.bind_eq_some_iff] at hnodes
      obtain ⟨components, hcomponents, hnodes⟩ := hnodes
      exact (h.get? hcomponents).get? hnodes
    · split
      · next nodes hnodes => exact h.get? hnodes
      · exact Schema.isResolvable_empty
  exact Report.failure?_bind_eq_none (failure?_extend hnodes []) fun _ _ ↦ rfl

end SchemaTable

end ApiCompiler
