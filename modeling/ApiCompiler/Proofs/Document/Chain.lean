import ApiCompiler.Proofs.Document.Reference
import Mathlib.Data.List.Nodup
import Mathlib.Data.List.Perm.Subperm

/-!
# Where chains of references end

A chain leads from a node to the target of its reference, and on from there. Following a node goes
along its chain for as long as the references are new; all of them but the first stand in the
document, so that this ends whatever the references are. A chain that arrives at a node which is no
reference gives this node. One that comes to a reference without a target, or to one that has been
followed already, gives null.
-/

namespace ApiCompiler.Document

variable {document node next final result : Value} {references seen : List String}
  {reference : String}

/-- A node leads to another one by some references, each of which points to the next one. -/
inductive Chain (document : Value) : Value → List String → Value → Prop
  | nil (node : Value) : Chain document node [] node
  | cons {node next final : Value} {reference : String} {references : List String}
      (reference_eq : reference? node = some reference)
      (target_eq : target? document reference = some next)
      (tail : Chain document next references final) :
      Chain document node (reference :: references) final

/-- What is found by following a node along a chain. -/
inductive Chain.Finds (document node : Value) (references : List String) : Value → Prop
  | arrives {final : Value} (chain : Chain document node references final)
      (no_reference : reference? final = none) : Finds document node references final
  | dangles {final : Value} {reference : String} (chain : Chain document node references final)
      (reference_eq : reference? final = some reference)
      (no_target : target? document reference = none) : Finds document node references .null
  | repeats {final : Value} {reference : String} (chain : Chain document node references final)
      (reference_eq : reference? final = some reference)
      (mem : reference ∈ references) : Finds document node references .null

namespace Chain

/-- The references behind the first one stand in the document. -/
theorem subset_references (h : Chain document node (reference :: references) final) :
    references ⊆ Document.references document := by
  induction references generalizing node reference with
  | nil => exact List.nil_subset _
  | cons further rest ih =>
    obtain _ | ⟨_, htarget, htail⟩ := h
    have hfurther : further ∈ Document.references document := by
      obtain _ | ⟨hreference, _, _⟩ := htail
      exact references_target_subset htarget (mem_references_of_reference? hreference)
    exact List.cons_subset.mpr ⟨hfurther, ih htail⟩

/-- A chain that follows no reference twice is bounded by the references of the document. -/
theorem length_le (h : Chain document node references final) (hnodup : references.Nodup) :
    references.length ≤ (Document.references document).length + 1 := by
  cases references with
  | nil => exact Nat.zero_le _
  | cons reference rest =>
    have hrest : rest.length ≤ (Document.references document).length :=
      (List.nodup_cons.mp hnodup).2.length_le_of_subset h.subset_references
    exact Nat.succ_le_succ hrest

/-- Following a node by references that are not among some goes along a chain of such references,
to a node that is no reference, or to a reference that is dangling or not new. -/
theorem exists_of_derefAfter (document : Value) (seen : List String) (node : Value) :
    ∃ references final, Chain document node references final ∧ references.Nodup ∧
      (∀ reference ∈ references, reference ∉ seen) ∧
      ((reference? final = none ∧ (derefAfter document seen node).outcome = .ok final) ∨
        ∃ reference, reference? final = some reference ∧
          (target? document reference = none ∨ reference ∈ references ∨ reference ∈ seen) ∧
          (derefAfter document seen node).outcome = .ok .null) := by
  induction seen, node using derefAfter.induct document with
  | case1 seen node hreference =>
    rw [derefAfter_of_reference?_eq_none hreference]
    exact ⟨[], node, .nil node, List.nodup_nil, List.forall_mem_nil _, .inl ⟨hreference, rfl⟩⟩
  | case2 seen node reference hreference hseen =>
    rw [derefAfter_of_mem hreference hseen]
    exact ⟨[], node, .nil node, List.nodup_nil, List.forall_mem_nil _,
      .inr ⟨reference, hreference, .inr (.inr hseen), rfl⟩⟩
  | case3 seen node reference hreference hnew hdangling =>
    have houtcome := outcome_derefAfter_of_dangling hreference hnew hdangling
    exact ⟨[], node, .nil node, List.nodup_nil, List.forall_mem_nil _,
      .inr ⟨reference, hreference, .inl hdangling, houtcome⟩⟩
  | case4 seen node reference hreference hnew next hnext _ ih =>
    rw [derefAfter_of_target hreference hnew hnext]
    obtain ⟨references, final, hchain, hnodup, hfresh, hend⟩ := ih
    have hfirst : reference ∉ references :=
      fun hmem ↦ hfresh reference hmem (List.mem_cons_self ..)
    refine ⟨reference :: references, final, .cons hreference hnext hchain,
      List.nodup_cons.mpr ⟨hfirst, hnodup⟩, ?_, ?_⟩
    · intro other hother
      rcases List.mem_cons.mp hother with rfl | hother
      · exact hnew
      · exact fun hseen ↦ hfresh other hother (List.mem_cons_of_mem _ hseen)
    · rcases hend with hend | ⟨last, hlast, hstop, houtcome⟩
      · exact .inl hend
      · refine .inr ⟨last, hlast, ?_, houtcome⟩
        simp only [List.mem_cons] at hstop ⊢
        tauto

/-- Following a node finds something along a chain without repetition. -/
theorem exists_finds (document node : Value) :
    ∃ references, references.Nodup ∧
      references.length ≤ (Document.references document).length + 1 ∧
      Finds document node references (followed document node) := by
  obtain ⟨references, final, hchain, hnodup, -, hend⟩ := exists_of_derefAfter document [] node
  refine ⟨references, hnodup, hchain.length_le hnodup, ?_⟩
  rw [← deref, outcome_deref] at hend
  rcases hend with ⟨hlast, houtcome⟩ | ⟨reference, hlast, hstop, houtcome⟩
  · rw [Except.ok.inj houtcome]
    exact .arrives hchain hlast
  · rw [Except.ok.inj houtcome]
    rcases hstop with hdangling | hmem | hmem
    · exact .dangles hchain hlast hdangling
    · exact .repeats hchain hlast hmem
    · exact absurd hmem List.not_mem_nil

/-- A chain of new references is followed to its last node. -/
theorem derefAfter_eq (h : Chain document node references final) (hnodup : references.Nodup)
    (hnew : ∀ reference ∈ references, reference ∉ seen) :
    derefAfter document seen node = derefAfter document (references.reverse ++ seen) final := by
  induction h generalizing seen with
  | nil node => rfl
  | cons hreference htarget _ ih =>
    obtain ⟨hfirst, hrest⟩ := List.nodup_cons.mp hnodup
    obtain ⟨hnewFirst, hnewRest⟩ := List.forall_mem_cons.mp hnew
    rw [derefAfter_of_target hreference hnewFirst htarget, ih hrest, List.reverse_cons,
      List.append_assoc, List.singleton_append]
    intro other hother hseen
    rcases List.mem_cons.mp hseen with rfl | hseen
    · exact hfirst hother
    · exact hnewRest other hother hseen

/-- What is found along a chain without repetition is what following the node gives. -/
theorem Finds.eq_followed (h : Finds document node references result)
    (hnodup : references.Nodup) : result = followed document node := by
  have hrun {final : Value} (hchain : Chain document node references final) :
      deref document node = derefAfter document references.reverse final := by
    have hwhole := hchain.derefAfter_eq hnodup fun _ _ ↦ List.not_mem_nil
    rwa [List.append_nil] at hwhole
  cases h with
  | arrives hchain hfinal =>
    rw [followed, hrun hchain, derefAfter_of_reference?_eq_none hfinal]
    rfl
  | @dangles final reference hchain hfinal htarget =>
    rw [followed, hrun hchain]
    by_cases hmem : reference ∈ references.reverse
    · rw [derefAfter_of_mem hfinal hmem]
      rfl
    · rw [outcome_derefAfter_of_dangling hfinal hmem htarget]
  | repeats hchain hfinal hmem =>
    rw [followed, hrun hchain, derefAfter_of_mem hfinal (List.mem_reverse.mpr hmem)]
    rfl

/-- What is found along a chain is no reference. -/
theorem Finds.reference?_eq_none (h : Finds document node references result) :
    reference? result = none := by
  cases h with
  | arrives _ hfinal => exact hfinal
  | dangles => rfl
  | repeats => rfl

end Chain

theorem reference?_followed (document node : Value) :
    reference? (followed document node) = none := by
  obtain ⟨_, _, _, hfinds⟩ := Chain.exists_finds document node
  exact hfinds.reference?_eq_none

/-- What a node leads to leads to itself. -/
theorem followed_followed (document node : Value) :
    followed document (followed document node) = followed document node :=
  followed_eq_self (reference?_followed document node)

end ApiCompiler.Document
