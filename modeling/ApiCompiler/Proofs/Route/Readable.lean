import ApiCompiler.Document.Operation
import ApiCompiler.Proofs.Document.Reference
import ApiCompiler.Proofs.Route
import ApiCompiler.Proofs.Schema.Resolve

/-!
# When an operation can be read

An operation is read without a failure when its path is text, every parameter that it or its path
item declares is located by a text, and no part of the document stops a resolution. What its
references are and whether they point anywhere does not matter.
-/

namespace ApiCompiler.Route

open Document (followed)
open Schema (IsResolvable)
open Value (Entries)

variable {document : Value} {operation item : Entries} {known : Option (List String)}

/-- The parameters that nodes declare once their references are followed. -/
def declared (document : Value) (nodes : List Value) : List Parameter :=
  nodes.filterMap fun node ↦ parameter? (followed document node)

/-- Whether a parameter is located by a text. -/
def Parameter.isLocated (p : Parameter) : Bool :=
  p.location.text?.isSome

/-- Parameters whose declarations resolve. -/
def AreResolvable (parameters : List Parameter) : Prop :=
  ∀ p ∈ parameters, IsResolvable (.map p.node)

theorem eq_map_of_parameter? {node : Value} {p : Parameter} (h : parameter? node = some p) :
    node = .map p.node := by
  unfold parameter? at h
  split at h
  · split at h
    · cases h
      rfl
    · cases h
  · cases h

theorem Parameter.isHashable_location {p : Parameter} (h : p.isLocated = true) :
    p.location.isHashable = true := by
  unfold isLocated at h
  cases hlocation : p.location <;> simp_all [Value.text?, Value.isHashable]

/-! ## Nodes of a document -/

theorem isResolvable_followed (hdocument : IsResolvable document) {node : Value}
    (hnode : IsResolvable node) : IsResolvable (followed document node) := by
  apply Document.followed_of_forall Schema.isResolvable_null _ hnode
  intro reference next htarget
  exact hdocument.of_subset (Value.parts_subset_of_target? htarget)

theorem isResolvable_of_jsonSchema? {container node : Value} (hcontainer : IsResolvable container)
    (h : jsonSchema? container = some node) : IsResolvable node := by
  unfold jsonSchema? at h
  split at h
  · next schema hschema =>
    cases h
    simp only [Option.bind_eq_some_iff] at hschema
    obtain ⟨json, ⟨content, hcontent, hjson⟩, hschema⟩ := hschema
    exact ((hcontainer.get? hcontent).get? hjson).get? hschema
  · cases h

/-- What an operation declares as a parameter is a part of it. -/
theorem parts_subset_of_mem_parameterList {node : Entries} {entry : Value}
    (h : entry ∈ parameterList node) : entry.parts ⊆ (Value.map node).parts := by
  unfold parameterList at h
  split at h
  · next items hitems =>
    exact List.Subset.trans (Value.parts_subset_of_mem_list h)
      (Value.parts_subset_of_find? hitems)
  · simp at h

/-- The success response of an operation is a part of it, or null. -/
theorem parts_successResponse_subset (node : Entries) :
    successResponse node = .null ∨ (successResponse node).parts ⊆ (Value.map node).parts := by
  unfold successResponse
  split
  · next responses hresponses =>
    cases hfound : successCodes.findSome? (Value.Keyed.lookup? responses) with
    | none => exact .inl rfl
    | some response =>
      obtain ⟨code, _, hlookup⟩ := List.exists_of_findSome?_eq_some hfound
      exact .inr (List.Subset.trans (Value.parts_subset_of_find? hlookup)
        (Value.parts_subset_of_find? hresponses))
  · exact .inl rfl

theorem isResolvable_of_mem_parameterList {node : Entries} (hnode : IsResolvable (.map node)) :
    ∀ entry ∈ parameterList node, IsResolvable entry :=
  fun _ hentry ↦ hnode.of_subset (parts_subset_of_mem_parameterList hentry)

/-! ## Parameters -/

theorem AreResolvable.putParameter {parameters : List Parameter} (h : AreResolvable parameters)
    {p : Parameter} (hp : IsResolvable (.map p.node)) :
    AreResolvable (putParameter parameters p) := by
  induction parameters with
  | nil => simpa [AreResolvable, Route.putParameter] using hp
  | cons q rest ih =>
    obtain ⟨hq, hrest⟩ := List.forall_mem_cons.mp h
    rw [Route.putParameter]
    split
    · exact List.forall_mem_cons.mpr ⟨hp, hrest⟩
    · exact List.forall_mem_cons.mpr ⟨hq, ih hrest⟩

theorem exists_collectFrom (hdocument : IsResolvable document) {nodes : List Value}
    (hnodes : ∀ node ∈ nodes, IsResolvable node)
    (hlocated : ∀ p ∈ declared document nodes, p.isLocated = true) {known : List Parameter}
    (hknown : AreResolvable known) :
    ∃ collected, (collectFrom document known nodes).outcome = .ok collected ∧
      AreResolvable collected := by
  induction nodes generalizing known with
  | nil => exact ⟨known, rfl, hknown⟩
  | cons node rest ih =>
    obtain ⟨hnode, hrest⟩ := List.forall_mem_cons.mp hnodes
    rw [collectFrom, Report.outcome_bind_of_ok (Document.outcome_deref document node)]
    cases hparameter : parameter? (followed document node) with
    | none =>
      simp only [declared, List.filterMap_cons, hparameter] at hlocated
      exact ih hrest hlocated hknown
    | some p =>
      simp only [declared, List.filterMap_cons, hparameter] at hlocated
      obtain ⟨hp, hothers⟩ := List.forall_mem_cons.mp hlocated
      have hdeclaration := isResolvable_followed hdocument hnode
      rw [eq_map_of_parameter? hparameter] at hdeclaration
      dsimp only
      rw [if_pos (Parameter.isHashable_location hp)]
      exact ih hrest hothers (hknown.putParameter hdeclaration)

theorem exists_collectParameters (hdocument : IsResolvable document)
    (hitem : IsResolvable (.map item)) (hoperation : IsResolvable (.map operation))
    (hlocated : ∀ p ∈ declared document (parameterList item ++ parameterList operation),
      p.isLocated = true) :
    ∃ collected, (collectParameters document operation item).outcome = .ok collected ∧
      AreResolvable collected := by
  rw [declared, List.filterMap_append] at hlocated
  obtain ⟨hshared, hown⟩ := List.forall_mem_append.mp hlocated
  obtain ⟨shared, houtcome, hshared⟩ := exists_collectFrom hdocument
    (isResolvable_of_mem_parameterList hitem) hshared (List.forall_mem_nil _)
  rw [collectParameters, Report.outcome_bind_of_ok houtcome]
  exact exists_collectFrom hdocument (isResolvable_of_mem_parameterList hoperation) hown hshared

theorem failure?_pathSchemas {parameters : List Parameter} (h : AreResolvable parameters)
    (names : List String) : (pathSchemas known parameters names).failure? = none := by
  induction names with
  | nil => rfl
  | cons name rest ih =>
    rw [pathSchemas]
    apply Report.failure?_bind_eq_none
    · unfold pathSchema
      split
      · next node hnode =>
        obtain ⟨p, hp, hnode⟩ := Option.bind_eq_some_iff.mp hnode
        have hdeclaration := h p (List.mem_of_find?_eq_some hp)
        split
        · exact Schema.failure?_resolve_eq_none known
            (hdeclaration.of_subset (Value.parts_subset_of_find? hnode))
        · rfl
      · rfl
    · intro schema _
      exact Report.failure?_bind_eq_none ih fun _ _ ↦ rfl

theorem isResolvable_querySchemaNode {node : Entries} (h : IsResolvable (.map node)) :
    IsResolvable (querySchemaNode node) := by
  have hdefault : IsResolvable (.map [(.text "type", .text "string")]) := by
    intro part hpart
    simp only [Value.parts, Value.partsOfEntries, List.append_nil, List.mem_cons,
      List.not_mem_nil, or_false] at hpart
    rcases hpart with rfl | rfl <;> rfl
  unfold querySchemaNode
  split
  · next schema hschema =>
    split
    · exact h.of_subset (Value.parts_subset_of_find? hschema)
    · exact hdefault
  · exact hdefault

theorem failure?_querySchemas {parameters : List Parameter} (h : AreResolvable parameters) :
    (querySchemas known parameters).failure? = none := by
  induction parameters with
  | nil => rfl
  | cons p rest ih =>
    obtain ⟨hp, hrest⟩ := List.forall_mem_cons.mp h
    rw [querySchemas]
    split
    · apply Report.failure?_bind_eq_none
      · exact Schema.failure?_resolve_eq_none known (isResolvable_querySchemaNode hp)
      · intro schema _
        exact Report.failure?_bind_eq_none (ih hrest) fun _ _ ↦ rfl
    · exact ih hrest

/-! ## Body and response -/

theorem failure?_bodyOf (hdocument : IsResolvable document)
    (hoperation : IsResolvable (.map operation)) :
    (bodyOf document known operation).failure? = none := by
  have hbody : IsResolvable ((operation.get? "requestBody").getD .null) := by
    cases hget : operation.get? "requestBody" with
    | none => exact Schema.isResolvable_null
    | some body => exact hoperation.of_subset (Value.parts_subset_of_find? hget)
  rw [bodyOf, Report.failure?_bind_of_ok (Document.outcome_deref document _)]
  split
  · rfl
  · next node hnode =>
    have hnode := isResolvable_of_jsonSchema? (isResolvable_followed hdocument hbody) hnode
    exact Report.failure?_bind_eq_none (Schema.failure?_resolve_eq_none known hnode) fun _ _ ↦ rfl

theorem isResolvable_successResponse (hoperation : IsResolvable (.map operation)) :
    IsResolvable (successResponse operation) := by
  rcases parts_successResponse_subset operation with hnull | hsubset
  · rw [hnull]
    exact Schema.isResolvable_null
  · exact hoperation.of_subset hsubset

theorem failure?_responseOf (hdocument : IsResolvable document)
    (hoperation : IsResolvable (.map operation)) :
    (responseOf document known operation).failure? = none := by
  rw [responseOf, Report.failure?_bind_of_ok (Document.outcome_deref document _)]
  have hresponse := isResolvable_followed hdocument (isResolvable_successResponse hoperation)
  split
  · rfl
  · next node hnode =>
    exact Schema.failure?_resolve_eq_none known (isResolvable_of_jsonSchema? hresponse hnode)

/-! ## Whole operations -/

/-- An operation with a textual path and located parameters is read without a failure. -/
theorem failure?_ofOperation (hdocument : IsResolvable document)
    (hitem : IsResolvable (.map item)) (hoperation : IsResolvable (.map operation))
    (hlocated : ∀ p ∈ declared document (parameterList item ++ parameterList operation),
      p.isLocated = true) (method path : String) :
    (ofOperation document known method (.text path) operation item).failure? = none := by
  have hpath : (pathText (.text path)).outcome = .ok path := rfl
  rw [ofOperation, Report.failure?_bind_of_ok hpath]
  split
  · rfl
  obtain ⟨parameters, hparameters, hresolvable⟩ :=
    exists_collectParameters hdocument hitem hoperation hlocated
  dsimp only
  rw [Report.failure?_bind_of_ok hparameters]
  apply Report.failure?_bind_eq_none (failure?_pathSchemas hresolvable _)
  intro pathParams _
  apply Report.failure?_bind_eq_none (failure?_querySchemas hresolvable)
  intro queryParams _
  apply Report.failure?_bind_eq_none (failure?_bodyOf hdocument hoperation)
  intro body _
  exact Report.failure?_bind_eq_none (failure?_responseOf hdocument hoperation) fun _ _ ↦ rfl

end ApiCompiler.Route
