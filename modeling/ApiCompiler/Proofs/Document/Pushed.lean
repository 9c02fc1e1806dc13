import ApiCompiler.Proofs.Document.Pointer
import ApiCompiler.Proofs.Document.Shared

/-!
# Parameters pushed down

A path item states parameters for all of its operations. The same document may state them in each
operation instead, in front of the operation's own. Whatever the version of the document is, its
operations then state the same as before, and as long as no reference leads into the paths, every
reference of theirs ends where it ended before.
-/

namespace ApiCompiler.Document

open Route (counted counted? parameterList successResponse)
open Value (Entries Keyed)

variable {document normal left right : Entries}

/-! ## Documents -/

/-- A node of a path item with the parameters that the item lists in front of its own. -/
def pushedNode (item node : Entries) : Entries :=
  match item.get? "parameters" with
  | some (.list shared) => node.putText "parameters" (.list (shared ++ parameterEntries node))
  | _ => node

/-- An entry of a path item whose operation states the parameters of the item as well. -/
def pushMethod (item : Entries) : Value × Value → Value × Value
  | (.text method, .map node) =>
    if httpMethods.contains method then (.text method, .map (pushedNode item node))
    else (.text method, .map node)
  | entry => entry

/-- A path item without its parameter list. -/
def withoutParameters (item : Entries) : Entries :=
  match item.get? "parameters" with
  | some (.list _) => item.remove "parameters"
  | _ => item

/-- A path item whose parameter list stands in its operations. -/
def pushedItem (item : Entries) : Entries :=
  (withoutParameters item).map (pushMethod item)

/-- An entry of the path items whose parameter list stands in the operations. -/
def pushItem : Value × Value → Value × Value
  | (path, .map item) => (path, .map (pushedItem item))
  | entry => entry

/-- A document whose path items have their parameter lists in the operations. -/
def pushDown (document : Entries) : Entries :=
  match document.get? "paths" with
  | some (.map items) => document.putText "paths" (.map (items.map pushItem))
  | _ => document

/-- An operation that states the parameters of its path item itself. -/
def Operation.pushed (operation : Operation) : Operation :=
  { operation with
    node := pushedNode operation.item operation.node
    item := pushedItem operation.item }

/-! ## Path items -/

theorem get?_pushedNode_of_ne {name : String} (item node : Entries) (h : name ≠ "parameters") :
    (pushedNode item node).get? name = node.get? name := by
  unfold pushedNode
  split
  · rw [Keyed.get?_putText, if_neg h]
  · rfl

theorem parameterEntries_pushedNode (item node : Entries) :
    parameterEntries (pushedNode item node) = parameterEntries item ++ parameterEntries node := by
  unfold pushedNode
  split
  · next shared hitem =>
    have hshared : parameterEntries item = shared := by rw [parameterEntries, hitem]
    rw [parameterEntries, Keyed.get?_putText, if_pos rfl, hshared]
  · next hitem =>
    have hnone : parameterEntries item = [] := by
      rw [parameterEntries]
      split
      · next shared hshared => exact absurd hshared (hitem shared)
      · rfl
    rw [hnone, List.nil_append]

theorem parameterEntries_withoutParameters (item : Entries) :
    parameterEntries (withoutParameters item) = [] := by
  unfold withoutParameters
  split
  · rw [parameterEntries, Keyed.get?_remove, if_pos rfl]
  · next hitem =>
    rw [parameterEntries]
    split
    · next shared hshared => exact absurd hshared (hitem shared)
    · rfl

theorem pushMethod_fst (item : Entries) (entry : Value × Value) :
    (pushMethod item entry).1 = entry.1 := by
  unfold pushMethod
  split
  · split <;> rfl
  · rfl

theorem parameterEntries_pushedItem (item : Entries) : parameterEntries (pushedItem item) = [] := by
  have hget : (pushedItem item).get? "parameters" = (withoutParameters item).get? "parameters" := by
    rw [pushedItem, Keyed.get?_map (pushMethod_fst item), Keyed.get?]
    cases hfound : List.find? (fun entry ↦ Keyed.keyIs "parameters" entry.1)
        (withoutParameters item) with
    | none => rfl
    | some entry =>
      obtain ⟨key, v⟩ := entry
      have hkey : Keyed.keyIs "parameters" key = true := by simpa using List.find?_some hfound
      obtain rfl : key = .text "parameters" := Keyed.keyIs_iff.mp hkey
      cases v <;> rfl
  rw [parameterEntries, hget]
  exact parameterEntries_withoutParameters item

/-- An entry of a path item makes the same operation, but for the place of its parameters. -/
theorem operationOf_pushMethod (path : Value) (item : Entries) (entry : Value × Value) :
    operationOf path (pushedItem item) (pushMethod item entry) =
      (operationOf path item entry).map Operation.pushed := by
  obtain ⟨key, v⟩ := entry
  cases key with
  | text method =>
    cases v with
    | map node =>
      cases hmethod : httpMethods.contains method <;>
        simp only [pushMethod, operationOf, hmethod, if_true, Bool.false_eq_true, if_false]
      · rfl
      · rfl
    | _ => rfl
  | _ => rfl

theorem filterMap_operationOf_withoutParameters (path : Value) (item other : Entries) :
    (withoutParameters item).filterMap (operationOf path other) =
      item.filterMap (operationOf path other) := by
  unfold withoutParameters
  split
  · rw [Keyed.remove, List.filterMap_filter]
    refine List.filterMap_congr fun entry _ ↦ ?_
    cases hkey : Keyed.keyIs "parameters" entry.1 with
    | false => rfl
    | true =>
      obtain ⟨key, v⟩ := entry
      obtain rfl : key = .text "parameters" := Keyed.keyIs_iff.mp hkey
      rw [operationOf_parameters]
      rfl
  · rfl

theorem operationsOfItem_pushItem (entry : Value × Value) :
    operationsOfItem (pushItem entry) = (operationsOfItem entry).map Operation.pushed := by
  obtain ⟨path, v⟩ := entry
  cases v with
  | map item =>
    calc
      operationsOfItem (pushItem (path, .map item)) =
          (withoutParameters item).filterMap fun entry ↦
            operationOf path (pushedItem item) (pushMethod item entry) := by
        rw [pushItem, operationsOfItem, pushedItem, List.filterMap_map]
        rfl
      _ = (withoutParameters item).filterMap fun entry ↦
          (operationOf path item entry).map Operation.pushed := by
        simp only [operationOf_pushMethod]
      _ = ((withoutParameters item).filterMap (operationOf path item)).map Operation.pushed :=
        (List.map_filterMap ..).symm
      _ = (operationsOfItem (path, .map item)).map Operation.pushed := by
        rw [filterMap_operationOf_withoutParameters, operationsOfItem]
  | _ => rfl

theorem get?_pushDown_of_ne {name : String} (h : name ≠ "paths") :
    (pushDown document).get? name = document.get? name :=
  get?_mapPaths_of_ne pushItem h

theorem paths_pushDown (document : Entries) :
    paths (.map (pushDown document)) = (paths (.map document)).map pushItem :=
  paths_mapPaths pushItem document

/-- The operations stand where they stood, each with its parameters put together. -/
theorem operations_pushDown (document : Entries) :
    operations (.map (pushDown document)) =
      (operations (.map document)).map Operation.pushed := by
  rw [operations, operations, paths_pushDown, List.flatMap_map, List.map_flatMap]
  simp only [operationsOfItem_pushItem]

/-! ## Operations that state the same -/

namespace Operation

/-- Operations that state the same, their parameters maybe in other places. -/
structure StatesSame (operation twin : Operation) : Prop where
  method_eq : operation.method = twin.method
  path_eq : operation.path = twin.path
  texts_eq : ∀ key ∈ ["operationId", "summary", "description"],
    operation.node.get? key = twin.node.get? key
  parameters_eq : parameterList operation.item ++ parameterList operation.node =
    parameterList twin.item ++ parameterList twin.node
  body_eq : operation.node.get? "requestBody" = twin.node.get? "requestBody"
  response_eq : successResponse operation.node = successResponse twin.node

/-- The nodes of an operation from which references are followed. -/
def nodes (operation : Operation) : List Value :=
  parameterList operation.item ++ parameterList operation.node ++
    [(operation.node.get? "requestBody").getD .null, successResponse operation.node]

/-- Operations that state the same are read alike in documents where their references end at the
same nodes. -/
theorem StatesSame.readsAlike {document other : Value} {operation twin : Operation}
    (h : StatesSame operation twin)
    (hfollowed : ∀ node ∈ twin.nodes, followed document node = followed other node) :
    Route.ReadsAlike document other operation twin where
  method_eq := h.method_eq
  path_eq := h.path_eq
  texts_eq := h.texts_eq
  counted_eq := by
    rw [h.parameters_eq, counted, counted]
    refine List.filterMap_congr fun node hnode ↦ ?_
    rw [counted?, counted?, hfollowed node (List.mem_append_left _ hnode)]
  body_eq := by
    rw [h.body_eq]
    exact hfollowed _ (by simp [nodes])
  response_eq := by
    rw [h.response_eq, hfollowed _ (by simp [nodes])]

theorem pushed_statesSame (operation : Operation) : StatesSame operation.pushed operation where
  method_eq := rfl
  path_eq := rfl
  texts_eq key hkey := by
    have hne : key ≠ "parameters" := by
      rintro rfl
      exact absurd hkey (by decide)
    rw [pushed, get?_pushedNode_of_ne _ _ hne]
  parameters_eq := by
    have hitem : parameterList operation.pushed.item = [] :=
      parameterEntries_pushedItem operation.item
    rw [hitem, List.nil_append]
    exact parameterEntries_pushedNode operation.item operation.node
  body_eq := get?_pushedNode_of_ne _ _ (by decide)
  response_eq := by
    rw [successResponse, pushed, get?_pushedNode_of_ne _ _ (by decide)]
    rfl

/-- The body that a path item states for its operations is the one of their first parameters. -/
theorem statedBody_pushed (operation : Operation) :
    statedBody operation.pushed.node =
      (statedBody operation.node).or (statedBody operation.item) := by
  rw [pushed, statedBody, parameterEntries_pushedNode, List.reverse_append, List.findSome?_append]
  rfl

/-- In the new layout as well, an operation states the same after its parameters are pushed down. -/
theorem converted_pushed_statesSame (operation : Operation) :
    StatesSame operation.pushed.converted operation.converted where
  method_eq := rfl
  path_eq := rfl
  texts_eq key hkey := by
    have hget (other : Operation) : other.converted.node.get? key = other.node.get? key := by
      rw [converted, get?_convertOperation_of_ne, get?_convertParameters_of_ne] <;> rintro rfl <;>
        exact absurd hkey (by decide)
    rw [hget, hget, (pushed_statesSame operation).texts_eq key hkey]
  parameters_eq := by
    have hentries := (pushed_statesSame operation).parameters_eq
    rw [parameterList_converted, parameterList_converted]
    exact congrArg (List.filterMap convertParameter?) hentries
  body_eq := by
    have hitem : statedBody operation.pushed.item = none := by
      rw [statedBody, pushed, parameterEntries_pushedItem]
      rfl
    rw [converted, converted, get?_requestBody_convertOperation, get?_requestBody_convertOperation,
      hitem, statedBody_pushed, (pushed_statesSame operation).body_eq]
    cases operation.node.get? "requestBody" <;> cases statedBody operation.node <;>
      cases statedBody operation.item <;> rfl
  response_eq := by
    rw [converted, converted, successResponse_convertOperation, successResponse_convertOperation,
      (pushed_statesSame operation).response_eq]

end Operation

/-! ## References that stay out of the paths -/

/-- A reference that leads into the paths of its document. -/
def PointsIntoPaths (reference : String) : Prop :=
  (keysOf? reference).bind List.head? = some "paths"

instance (reference : String) : Decidable (PointsIntoPaths reference) :=
  inferInstanceAs (Decidable (_ = _))

/-- A node that is no reference into the paths. -/
def StaysOut (node : Value) : Prop :=
  ∀ reference ∈ reference? node, ¬PointsIntoPaths reference

/-- A value of whose parts none is a reference into the paths. -/
def IsClear (v : Value) : Prop :=
  ∀ part ∈ v.parts, StaysOut part

theorem IsClear.of_subset {v w : Value} (h : IsClear w) (hsubset : v.parts ⊆ w.parts) : IsClear v :=
  fun part hpart ↦ h part (hsubset hpart)

theorem IsClear.staysOut {v : Value} (h : IsClear v) : StaysOut v :=
  h v (Value.mem_parts_self v)

theorem staysOut_null : StaysOut .null := by
  intro reference hreference
  simp [reference?, Value.get?, Value.map?] at hreference

theorem IsClear.get? {entries : Entries} (h : IsClear (.map entries)) {key : String} {v : Value}
    (hget : entries.get? key = some v) : IsClear v :=
  h.of_subset (Value.parts_subset_of_find? hget)

theorem exists_cons_of_keysOf? {reference : String} {keys : List String}
    (h : keysOf? reference = some keys) : ∃ key rest, keys = key :: rest := by
  have hsplit (text : List Char) : Pointer.splitKeys text ≠ [] := by
    rw [Pointer.splitKeys_eq_splitOn]
    exact Text.splitOn_ne_nil '/' text
  unfold keysOf? at h
  split at h
  · next text _ =>
    rw [Option.some.injEq] at h
    rw [← h]
    exact List.exists_cons_of_ne_nil (by simpa using hsplit text)
  · cases h

/-- Nodes that stay out of the paths end alike in documents that state the same elsewhere. -/
theorem followed_eq_of_staysOut (hsame : ∀ key, key ≠ "paths" → left.get? key = right.get? key)
    (hclear : ∀ key v, key ≠ "paths" → left.get? key = some v → IsClear v) {node : Value}
    (hnode : StaysOut node) : followed (.map left) node = followed (.map right) node := by
  have htarget (document : Entries) {reference key : String} {keys : List String}
      (hkeys : keysOf? reference = some (key :: keys)) :
      target? (.map document) reference = (document.get? key).bind (descend? · keys) := by
    rw [target?_eq_bind, hkeys, Option.bind_some, descend?]
    rfl
  have hcases (reference : String) (hout : ¬PointsIntoPaths reference) :
      (∀ document : Entries, target? (.map document) reference = none) ∨
        ∃ key keys, keysOf? reference = some (key :: keys) ∧ key ≠ "paths" := by
    cases hkeys : keysOf? reference with
    | none => exact .inl fun document ↦ by rw [target?_eq_bind, hkeys, Option.bind_none]
    | some keys =>
      obtain ⟨key, rest, rfl⟩ := exists_cons_of_keysOf? hkeys
      refine .inr ⟨key, rest, rfl, ?_⟩
      rintro rfl
      exact hout (by rw [PointsIntoPaths, hkeys]; rfl)
  refine followed_eq_of_forall (P := fun reference ↦ ¬PointsIntoPaths reference) ?_ ?_ hnode
  · intro reference hout
    rcases hcases reference hout with hnone | ⟨key, keys, hkeys, hne⟩
    · rw [hnone left, hnone right]
    · rw [htarget left hkeys, htarget right hkeys, hsame key hne]
  · intro reference next hout hnext
    rcases hcases reference hout with hnone | ⟨key, keys, hkeys, hne⟩
    · rw [hnone left] at hnext
      cases hnext
    · rw [htarget left hkeys, Option.bind_eq_some_iff] at hnext
      obtain ⟨v, hv, hnext⟩ := hnext
      exact ((hclear key v hne hv).of_subset (Value.parts_subset_of_descend? hnext)).staysOut

/-! ## Converted nodes stay out of the paths -/

/-- A node that is the same reference as another one, or none, stays out of the paths as well. -/
theorem StaysOut.of_reference?_eq {node other : Value} (h : StaysOut other)
    (hreference : reference? node = reference? other) : StaysOut node := by
  intro reference hnode
  rw [hreference] at hnode
  exact h reference hnode

theorem reference?_map_eq {node other : Entries} (h : node.get? "$ref" = other.get? "$ref") :
    reference? (.map node) = reference? (.map other) := by
  rw [reference?, reference?, Value.get?, Value.get?, Value.map?, Value.map?, Option.bind_some,
    Option.bind_some, h]

theorem reference?_of_convertParameter? {entry converted : Value}
    (h : convertParameter? entry = some converted) : reference? converted = reference? entry := by
  unfold convertParameter? at h
  split at h
  · split at h
    · cases h
    · rw [Option.some.injEq] at h
      rw [← h]
      exact reference?_map_eq (get?_nestType (by decide) (by decide))
  · rw [Option.some.injEq] at h
    rw [h]

theorem reference?_convertResponse (v : Value) : reference? (convertResponse v) = reference? v := by
  unfold convertResponse
  split
  · exact reference?_map_eq (get?_contentOfSchema_of_ne (by decide) (by decide))
  · rfl

theorem staysOut_of_statedBody {node : Entries} {body : Value} (h : statedBody node = some body) :
    StaysOut body := by
  obtain ⟨entry, _, hbody⟩ := List.exists_of_findSome?_eq_some h
  unfold parameterBody? at hbody
  split at hbody
  · split at hbody
    · rw [Option.some.injEq] at hbody
      rw [← hbody]
      exact staysOut_null.of_reference?_eq rfl
    · cases hbody
  · cases hbody

variable {operation : Operation}

theorem staysOut_of_mem_nodes (hclear : IsClear (.map document))
    (hoperation : operation ∈ operations (.map document)) :
    ∀ node ∈ operation.nodes, StaysOut node := by
  obtain ⟨hitemSubset, hnodeSubset⟩ := parts_subset_of_mem_operations hoperation
  have hitem : IsClear (.map operation.item) := hclear.of_subset hitemSubset
  have hnode : IsClear (.map operation.node) := hclear.of_subset hnodeSubset
  intro node hmem
  simp only [Operation.nodes, List.mem_append, List.mem_cons, List.not_mem_nil, or_false] at hmem
  rcases hmem with (hmem | hmem) | rfl | rfl
  · exact (hitem.of_subset (Route.parts_subset_of_mem_parameterList hmem)).staysOut
  · exact (hnode.of_subset (Route.parts_subset_of_mem_parameterList hmem)).staysOut
  · cases hbody : operation.node.get? "requestBody" with
    | none => exact staysOut_null
    | some body => exact (hnode.get? hbody).staysOut
  · rcases Route.parts_successResponse_subset operation.node with hnull | hsubset
    · rw [hnull]
      exact staysOut_null
    · exact (hnode.of_subset hsubset).staysOut

theorem staysOut_of_mem_nodes_converted (h : ∀ node ∈ operation.nodes, StaysOut node) :
    ∀ node ∈ operation.converted.nodes, StaysOut node := by
  intro node hmem
  simp only [Operation.nodes, parameterList_converted, List.mem_append, List.mem_cons,
    List.not_mem_nil, or_false] at hmem
  rcases hmem with hmem | rfl | rfl
  · obtain ⟨entry, hentry, hconverted⟩ := List.mem_filterMap.mp hmem
    exact (h entry (List.mem_append_left _ hentry)).of_reference?_eq
      (reference?_of_convertParameter? hconverted)
  · rw [Operation.converted, get?_requestBody_convertOperation]
    cases hbody : operation.node.get? "requestBody" with
    | some body =>
      refine h body ?_
      simp [Operation.nodes, hbody]
    | none =>
      cases hown : statedBody operation.node with
      | some body => exact staysOut_of_statedBody hown
      | none =>
        cases hshared : statedBody operation.item with
        | some body => exact staysOut_of_statedBody hshared
        | none => exact staysOut_null
  · rw [Operation.converted, successResponse_convertOperation]
    refine StaysOut.of_reference?_eq (h _ ?_) (reference?_convertResponse _)
    simp [Operation.nodes]

theorem isClear_map_iff {entries : Entries} :
    IsClear (.map entries) ↔ StaysOut (.map entries) ∧ ∀ entry ∈ entries, IsClear entry.2 := by
  simp only [IsClear, Value.parts, List.forall_mem_cons, Value.mem_partsOfEntries]
  refine and_congr_right fun _ ↦ ⟨fun h entry hentry part hpart ↦ h part ⟨entry, hentry, hpart⟩, ?_⟩
  rintro h part ⟨entry, hentry, hpart⟩
  exact h entry hentry part hpart

theorem IsClear.putText {entries : Entries} {name : String} {v : Value}
    (h : IsClear (.map entries)) (hv : IsClear v) (hname : name ≠ "$ref") :
    IsClear (.map (entries.putText name v)) := by
  obtain ⟨hself, hentries⟩ := isClear_map_iff.mp h
  refine isClear_map_iff.mpr ⟨hself.of_reference?_eq (reference?_map_eq ?_), ?_⟩
  · rw [Keyed.get?_putText, if_neg hname.symm]
  · intro entry hentry
    rcases Keyed.mem_putText hentry with hentry | hentry
    · exact hentries entry hentry
    · rw [hentry]
      exact hv

theorem isClear_getD {key : String} (h : IsClear (.map document)) :
    IsClear ((document.get? key).getD (.map [])) := by
  cases hget : document.get? key with
  | some v => exact h.get? hget
  | none => exact isClear_map_iff.mpr ⟨staysOut_null.of_reference?_eq rfl, by simp⟩

/-- What a clear document states besides its paths is clear in the new layout, too. -/
theorem IsClear.get?_normalise (hclear : IsClear (.map document))
    (hlegacy : isLegacy document = true) (hnormal : (normalise document).outcome = .ok normal)
    {key : String} {v : Value} (hkey : key ≠ "paths") (hget : normal.get? key = some v) :
    IsClear v := by
  by_cases hcomponents : key = "components"
  · obtain ⟨components, hstated, hadopted⟩ := get?_components_normalise hlegacy hnormal
    have hclearComponents : IsClear (.map components) := hstated ▸ isClear_getD hclear
    rw [hcomponents, hadopted, Option.some.injEq] at hget
    rw [← hget]
    exact hclearComponents.putText (isClear_getD hclear) (by decide)
  · rw [get?_normalise_of_ne hlegacy hnormal hkey hcomponents] at hget
    exact hclear.get? hget

end ApiCompiler.Document
