import ApiCompiler.Document.Reference
import ApiCompiler.Proofs.Report

/-!
# Parts and references

The parts of a value are the value itself and the parts of its items or of what stands under its
keys. Whatever is found in a document by a key, in a list or by a reference has only parts of the
document. Following a node to its end never fails, whatever the references of the document are: it
ends at the node, at a target of a reference, or at null.
-/

/-! ## Parts of a value -/

namespace ApiCompiler.Value

mutual
/-- The value and everything in its lists and mappings; keys are no parts. -/
def parts : Value → List Value
  | .list items => .list items :: partsOfList items
  | .map entries => .map entries :: partsOfEntries entries
  | v => [v]
termination_by structural v => v
/-- The parts of several values. -/
def partsOfList : List Value → List Value
  | [] => []
  | v :: rest => parts v ++ partsOfList rest
termination_by structural vs => vs
/-- The parts of what stands in entries. -/
def partsOfEntries : List (Value × Value) → List Value
  | [] => []
  | (_, v) :: rest => parts v ++ partsOfEntries rest
termination_by structural es => es
end

variable {v w : Value}

theorem mem_parts_self (v : Value) : v ∈ parts v := by
  cases v <;> simp [parts]

theorem parts_subset_of_mem_list {items : List Value} (h : v ∈ items) :
    parts v ⊆ parts (.list items) := by
  rw [parts]
  refine List.subset_cons_of_subset _ ?_
  induction items with
  | nil => simp at h
  | cons item rest ih =>
    rw [partsOfList]
    rcases List.mem_cons.mp h with rfl | h
    · exact List.subset_append_left _ _
    · exact List.subset_append_of_subset_right _ (ih h)

theorem mem_partsOfEntries {entries : Entries} :
    v ∈ partsOfEntries entries ↔ ∃ entry ∈ entries, v ∈ parts entry.2 := by
  induction entries with
  | nil => simp [partsOfEntries]
  | cons entry rest ih => simp [partsOfEntries, ih]

theorem parts_subset_of_mem_entries {entries : Entries} {key : Value} (h : (key, v) ∈ entries) :
    parts v ⊆ parts (.map entries) := by
  intro part hpart
  rw [parts]
  exact List.mem_cons_of_mem _ (mem_partsOfEntries.mpr ⟨(key, v), h, hpart⟩)

theorem parts_subset_of_find? {entries : Entries} {isKey : Value × Value → Bool}
    (h : (List.find? isKey entries).map Prod.snd = some v) : parts v ⊆ parts (.map entries) := by
  rw [Option.map_eq_some_iff] at h
  obtain ⟨⟨key, value⟩, hfound, rfl⟩ := h
  exact parts_subset_of_mem_entries (List.mem_of_find?_eq_some hfound)

theorem parts_subset_of_get? {key : String} (h : w.get? key = some v) : parts v ⊆ parts w := by
  cases w with
  | map entries => exact parts_subset_of_find? h
  | _ => simp [get?, map?] at h

theorem parts_subset_of_descend? {keys : List String} (h : Document.descend? w keys = some v) :
    parts v ⊆ parts w := by
  induction keys generalizing w with
  | nil =>
    rw [Document.descend?, Option.some.injEq] at h
    rw [h]
    exact List.Subset.refl _
  | cons key rest ih =>
    rw [Document.descend?, Option.bind_eq_some_iff] at h
    obtain ⟨child, hchild, h⟩ := h
    exact List.Subset.trans (ih h) (parts_subset_of_get? hchild)

theorem parts_subset_of_target? {reference : String}
    (h : Document.target? w reference = some v) : parts v ⊆ parts w := by
  unfold Document.target? at h
  split at h
  · exact parts_subset_of_descend? h
  · simp at h

end ApiCompiler.Value

/-! ## Chains of references -/

namespace ApiCompiler.Document

variable {document node next : Value} {seen : List String} {reference : String}

/-- The node at the end of a chain of references, without the log of following it. -/
def followed (document node : Value) : Value :=
  match (deref document node).outcome with
  | .ok target => target
  | .error _ => .null

/-! ## One step of a chain -/

theorem reference?_eq_none_of_has {node : Value.Entries}
    (h : Value.Keyed.has node "$ref" = false) : reference? (.map node) = none := by
  rw [Value.Keyed.has, Option.isSome_eq_false_iff, Option.isNone_iff_eq_none] at h
  rw [reference?, Value.get?, Value.map?, Option.bind_some, h]
  rfl

theorem derefAfter_of_reference?_eq_none (h : reference? node = none) :
    derefAfter document seen node = pure node := by
  rw [derefAfter]
  split <;> simp_all

theorem derefAfter_of_mem (h : reference? node = some reference) (hseen : reference ∈ seen) :
    derefAfter document seen node = pure .null := by
  rw [derefAfter]
  split <;> simp_all

theorem outcome_derefAfter_of_dangling (h : reference? node = some reference)
    (hnew : reference ∉ seen) (htarget : target? document reference = none) :
    (derefAfter document seen node).outcome = .ok .null := by
  rw [derefAfter]
  split
  · simp_all
  · next other hother =>
    cases h.symm.trans hother
    rw [dif_neg hnew]
    split
    · rfl
    · simp_all

theorem derefAfter_of_target (h : reference? node = some reference)
    (hnew : reference ∉ seen) (htarget : target? document reference = some next) :
    derefAfter document seen node = derefAfter document (reference :: seen) next := by
  rw [derefAfter]
  split
  · simp_all
  · next other hother =>
    cases h.symm.trans hother
    rw [dif_neg hnew]
    split <;> simp_all

/-! ## Whole chains -/

/-- What holds of the node, of every target and of null holds at the end of a chain. -/
theorem exists_outcome_derefAfter {P : Value → Prop} (hnull : P .null)
    (htarget : ∀ reference next, target? document reference = some next → P next)
    (seen : List String) (node : Value) (hnode : P node) :
    ∃ target, (derefAfter document seen node).outcome = .ok target ∧ P target := by
  induction seen, node using derefAfter.induct document with
  | case1 seen node hreference =>
    rw [derefAfter_of_reference?_eq_none hreference]
    exact ⟨node, rfl, hnode⟩
  | case2 seen node reference hreference hseen =>
    rw [derefAfter_of_mem hreference hseen]
    exact ⟨.null, rfl, hnull⟩
  | case3 seen node reference hreference hnew hdangling =>
    exact ⟨.null, outcome_derefAfter_of_dangling hreference hnew hdangling, hnull⟩
  | case4 seen node reference hreference hnew next hnext _ ih =>
    rw [derefAfter_of_target hreference hnew hnext]
    exact ih (htarget reference next hnext)

theorem outcome_deref (document node : Value) :
    (deref document node).outcome = .ok (followed document node) := by
  have hend : ∃ target, (derefAfter document [] node).outcome = .ok target ∧ True :=
    exists_outcome_derefAfter trivial (fun _ _ _ ↦ trivial) [] node trivial
  obtain ⟨target, htarget, _⟩ := hend
  rw [followed, deref, htarget]

/-- A node that is no reference is its own end. -/
theorem followed_eq_self (h : reference? node = none) : followed document node = node := by
  rw [followed, deref, derefAfter_of_reference?_eq_none h]
  rfl

theorem followed_of_target (h : reference? node = some reference)
    (htarget : target? document reference = some next) (hnext : reference? next = none) :
    followed document node = next := by
  rw [followed, deref, derefAfter_of_target h List.not_mem_nil htarget,
    derefAfter_of_reference?_eq_none hnext]
  rfl

/-- What holds of the node, of every target and of null holds at the end of the node's chain. -/
theorem followed_of_forall {P : Value → Prop} (hnull : P .null)
    (htarget : ∀ reference next, target? document reference = some next → P next)
    (hnode : P node) : P (followed document node) := by
  obtain ⟨target, houtcome, htarget⟩ := exists_outcome_derefAfter hnull htarget [] node hnode
  rw [← deref, outcome_deref, Except.ok.injEq] at houtcome
  rw [houtcome]
  exact htarget

/-! ## Documents that lead alike -/

/-- A document whose nodes all lead to the same nodes in another one. -/
def LeadsAlike (document other : Value) : Prop :=
  ∀ node ∈ document.parts, followed document node = followed other node

/-- A chain ends at the same node in two documents if its references are of a kind that points to
the same nodes in both and that these nodes keep to. -/
theorem followed_eq_of_forall {other : Value} {P : String → Prop}
    (htarget : ∀ reference, P reference → target? document reference = target? other reference)
    (hkept : ∀ reference next, P reference → target? document reference = some next →
      ∀ further, reference? next = some further → P further)
    (hnode : ∀ reference, reference? node = some reference → P reference) :
    followed document node = followed other node := by
  have hchain (seen : List String) (node : Value)
      (hnode : ∀ reference, reference? node = some reference → P reference) :
      (derefAfter document seen node).outcome = (derefAfter other seen node).outcome := by
    induction seen, node using derefAfter.induct document with
    | case1 seen node hreference =>
      rw [derefAfter_of_reference?_eq_none hreference, derefAfter_of_reference?_eq_none hreference]
    | case2 seen node reference hreference hseen =>
      rw [derefAfter_of_mem hreference hseen, derefAfter_of_mem hreference hseen]
    | case3 seen node reference hreference hnew hdangling =>
      have hother := hdangling
      rw [htarget reference (hnode reference hreference)] at hother
      rw [outcome_derefAfter_of_dangling hreference hnew hdangling,
        outcome_derefAfter_of_dangling hreference hnew hother]
    | case4 seen node reference hreference hnew next hnext _ ih =>
      have hother := hnext
      rw [htarget reference (hnode reference hreference)] at hother
      rw [derefAfter_of_target hreference hnew hnext, derefAfter_of_target hreference hnew hother]
      exact ih (hkept reference next (hnode reference hreference) hnext)
  rw [followed, followed, deref, deref, hchain [] node hnode]

/-- Documents lead alike when the references of the first point to the same nodes in both. -/
theorem leadsAlike_of_forall {other : Value}
    (h : ∀ node ∈ document.parts, ∀ reference, reference? node = some reference →
      target? document reference = target? other reference) : LeadsAlike document other := by
  intro node hnode
  refine followed_eq_of_forall
    (P := fun reference ↦ ∃ part ∈ document.parts, reference? part = some reference) ?_ ?_ ?_
  · rintro reference ⟨part, hpart, hreference⟩
    exact h part hpart reference hreference
  · intro _ next _ hnext further hfurther
    exact ⟨next, Value.parts_subset_of_target? hnext (Value.mem_parts_self next), hfurther⟩
  · exact fun reference hreference ↦ ⟨node, hnode, hreference⟩

end ApiCompiler.Document
