import ApiCompiler.Pointer
import ApiCompiler.Report

/-!
# References inside a document

Parameters, request bodies and responses may stand elsewhere in the document. A reference is
followed to the node it points to, and on from there if that is a reference too. A reference that
points nowhere, or back to one that has been followed already, gives null.
-/

namespace ApiCompiler.Document

open Value (Entries)

/-- The node under one key of a mapping. -/
def child? (node : Value) (key : String) : Option Value :=
  node.get? key

/-- The node at the end of a list of keys. -/
def descend? (node : Value) : List String → Option Value
  | [] => some node
  | key :: keys => (child? node key).bind fun next ↦ descend? next keys

/-- The node that a local reference points to. -/
def target? (document : Value) (reference : String) : Option Value :=
  match reference.toList with
  | '#' :: '/' :: keys => descend? document ((Pointer.splitKeys keys).map Pointer.decodeKey)
  | _ => none

/-- The node that a local reference points to. A reference that leads nowhere is a missing key. -/
def resolveReference (document : Value) (reference : String) : Report Value :=
  match target? document reference with
  | some node => pure node
  | none => .fail (.missingKey reference)

/-- The reference that a node consists of. -/
def reference? (node : Value) : Option String :=
  (node.get? "$ref").bind Value.text?

mutual
/-- All references in a value. -/
def references : Value → List String
  | .list items => referencesOfList items
  | .map entries =>
    (reference? (.map entries)).toList ++ referencesOfEntries entries
  | _ => []
termination_by structural v => v
/-- All references in several values. -/
def referencesOfList : List Value → List String
  | [] => []
  | v :: rest => references v ++ referencesOfList rest
termination_by structural vs => vs
/-- All references in the values of entries. -/
def referencesOfEntries : List (Value × Value) → List String
  | [] => []
  | (_, v) :: rest => references v ++ referencesOfEntries rest
termination_by structural es => es
end

theorem references_subset_of_mem {v : Value} :
    {entries : List (Value × Value)} → {key : Value} → (key, v) ∈ entries →
      references v ⊆ referencesOfEntries entries
  | (_, w) :: rest, key, h => by
    rw [referencesOfEntries]
    rcases List.mem_cons.mp h with h | h
    · cases h
      exact List.subset_append_left _ _
    · exact List.subset_append_of_subset_right _ (references_subset_of_mem h)

theorem references_child_subset {node next : Value} {key : String}
    (h : child? node key = some next) : references next ⊆ references node := by
  unfold child? Value.get? at h
  cases node with
  | map entries =>
    simp only [Value.map?, Option.bind_some, Value.Keyed.get?, Option.map_eq_some_iff] at h
    obtain ⟨⟨k, v⟩, found, rfl⟩ := h
    rw [references]
    exact List.subset_append_of_subset_right _
      (references_subset_of_mem (List.mem_of_find?_eq_some found))
  | _ => simp [Value.map?] at h

theorem references_descend_subset {next : Value} :
    {keys : List String} → {node : Value} → descend? node keys = some next →
      references next ⊆ references node
  | [], node, h => by
    simp only [descend?, Option.some.injEq] at h
    rw [h]
    exact List.Subset.refl _
  | key :: keys, node, h => by
    simp only [descend?, Option.bind_eq_some_iff] at h
    obtain ⟨child, hchild, h⟩ := h
    exact List.Subset.trans (references_descend_subset h) (references_child_subset hchild)

theorem references_target_subset {document next : Value} {reference : String}
    (h : target? document reference = some next) : references next ⊆ references document := by
  unfold target? at h
  split at h
  · exact references_descend_subset h
  · simp at h

theorem mem_references_of_reference? {node : Value} {reference : String}
    (h : reference? node = some reference) : reference ∈ references node := by
  cases node with
  | map entries =>
    rw [references, h]
    simp
  | _ => simp [reference?, Value.get?, Value.map?] at h

/-- The references in a document that have not been followed. -/
def unfollowed (document : Value) (followed : List String) : List String :=
  (references document).filter fun reference ↦ !followed.contains reference

/-- Whether a node is a reference that does not stand in the document. -/
def isForeign (document node : Value) : Bool :=
  match reference? node with
  | none => false
  | some reference => !(references document).contains reference

/-- What gets smaller with each reference that is followed. -/
def remaining (document : Value) (followed : List String) (node : Value) : Nat :=
  2 * (unfollowed document followed).length + (isForeign document node).toNat

theorem unfollowed_cons (document : Value) (reference : String) (followed : List String) :
    unfollowed document (reference :: followed) =
      (unfollowed document followed).filter fun other ↦ other != reference := by
  unfold unfollowed
  rw [List.filter_filter]
  congr 1
  funext other
  by_cases h : other = reference <;> simp [h]

theorem isForeign_target {document next : Value} {reference : String}
    (h : target? document reference = some next) : isForeign document next = false := by
  unfold isForeign
  split
  · rfl
  · next r hr => simpa using references_target_subset h (mem_references_of_reference? hr)

theorem remaining_lt {document node next : Value} {followed : List String} {reference : String}
    (hnode : reference? node = some reference) (hnew : reference ∉ followed)
    (hnext : target? document reference = some next) :
    remaining document (reference :: followed) next < remaining document followed node := by
  simp only [remaining, isForeign_target hnext, Bool.toNat_false, unfollowed_cons]
  by_cases hmem : reference ∈ references document
  · have hless : ((unfollowed document followed).filter fun other ↦ other != reference).length <
        (unfollowed document followed).length :=
      List.length_filter_lt_length_iff_exists.mpr
        ⟨reference, by simp [unfollowed, hmem, hnew], by simp⟩
    omega
  · have hforeign : isForeign document node = true := by simp [isForeign, hnode, hmem]
    have hfewer := List.length_filter_le (fun other ↦ other != reference)
      (unfollowed document followed)
    rw [hforeign, Bool.toNat_true]
    omega

/-- Follows a node to its end by references that have not been followed yet. -/
def derefAfter (document : Value) (followed : List String) (node : Value) : Report Value :=
  match hnode : reference? node with
  | none => pure node
  | some reference =>
    if hnew : reference ∈ followed then pure .null
    else
      match hnext : target? document reference with
      | none => do
        Report.note (.danglingReference reference)
        return .null
      | some next =>
        have := remaining_lt hnode hnew hnext
        derefAfter document (reference :: followed) next
termination_by remaining document followed node

/-- The node at the end of a chain of references, or null. -/
def deref (document node : Value) : Report Value :=
  derefAfter document [] node

end ApiCompiler.Document
