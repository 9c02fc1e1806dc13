import ApiCompiler.Proofs.Document.Normalise
import ApiCompiler.Proofs.Document.Operation
import ApiCompiler.Proofs.Route.Alike
import Mathlib.Data.List.Forall2

/-!
# Shared parameters and responses

A document of version 2 may state a parameter or a response once, for its operations to refer to.
The new layout converts what stands in the operations and leaves the shared objects as they are. So
an operation with references is read as the one with the objects in their places when these objects
mean the same in both layouts.
-/

namespace ApiCompiler.Document

open Route (counted counted? parameter? parameterList successResponse)
open Value (Entries Keyed)

variable {document normal shared sharedNormal object node : Entries} {kind name reference : String}

/-! ## Nodes that stand for objects -/

/-- The keys by which a reference leads into its document. -/
def keysOf? (reference : String) : Option (List String) :=
  match reference.toList with
  | '#' :: '/' :: keys => some ((Pointer.splitKeys keys).map Pointer.decodeKey)
  | _ => none

theorem target?_eq_bind (document : Value) (reference : String) :
    target? document reference = (keysOf? reference).bind (descend? document) := by
  rw [target?, keysOf?]
  split <;> simp_all

/-- A node that is a reference and nothing else. -/
def referenceNode (reference : String) : Entries :=
  [(.text "$ref", .text reference)]

/-- A node of a document and the node that it stands for: itself, or an object that the document
states under a key for its operations to share. -/
inductive StandsFor (document : Entries) (kind : String) (P : Entries → Prop) :
    Value → Value → Prop where
  | itself (node : Value) : StandsFor document kind P node node
  | object {reference name : String} {object : Entries}
      (keys_eq : keysOf? reference = some [kind, name])
      (stated : (document.get? kind).bind (Value.get? · name) = some (.map object))
      (inline : object.has "$ref" = false) (holds : P object) :
      StandsFor document kind P (.map (referenceNode reference)) (.map object)

theorem followed_referenceNode (hkeys : keysOf? reference = some [kind, name])
    (hstated : (document.get? kind).bind (Value.get? · name) = some (.map object))
    (hinline : object.has "$ref" = false) :
    followed (.map document) (.map (referenceNode reference)) = .map object := by
  refine followed_of_target rfl ?_ (reference?_eq_none_of_has hinline)
  rw [target?_eq_bind, hkeys, Option.bind_some, ← hstated]
  cases hkind : document.get? kind with
  | none => simp [descend?, child?, Value.get?, Value.map?, hkind]
  | some v =>
    have hchild : child? (.map document) kind = some v := hkind
    rw [descend?, hchild, Option.bind_some, Option.bind_some, descend?, child?]
    cases v.get? name <;> rfl

theorem isLocated_iff {location : String} :
    isLocated node location = true ↔ node.get? "in" = some (.text location) := by
  rw [isLocated]
  cases node.get? "in" <;> simp [Value.text_equals_iff]

/-! ## Parameters -/

/-- A parameter that means the same in both layouts: it is not in a body, and it has a schema or no
inline type, unless it is passed neither in the query nor in the path. -/
structure IsPortableParameter (object : Entries) : Prop where
  not_body : isLocated object "body" = false
  keeps : object.has "schema" = true ∨ object.has "type" = false ∨
    ∃ location, object.get? "in" = some (.text location) ∧ location ≠ "query" ∧ location ≠ "path"

theorem filter_parameter?_eq_none {location : String}
    (hin : node.get? "in" = some (.text location)) (hquery : location ≠ "query")
    (hpath : location ≠ "path") :
    (parameter? (.map node)).filter Route.Parameter.counts = none := by
  rw [parameter?, hin]
  split
  · simp [Option.filter, Route.Parameter.counts, Route.Parameter.isRead, Value.equals,
      Value.equalsAtom, Value.isHashable, hquery, hpath]
  · rfl

theorem nestType_eq_self (h : node.has "schema" = true ∨ node.has "type" = false) :
    nestType node = node := by
  rcases h with h | h <;> simp [nestType, h]

/-- A portable parameter counts for the same before and after it is converted. -/
theorem counted?_of_isPortable (hinline : object.has "$ref" = false)
    (h : IsPortableParameter object) (document : Value) :
    (convertParameter? (.map object)).bind (counted? document) =
      (parameter? (.map object)).filter Route.Parameter.counts := by
  rw [convertParameter?, h.not_body, Bool.false_or]
  cases hform : isLocated object "formData" with
  | true =>
    rw [filter_parameter?_eq_none (isLocated_iff.mp hform) (by decide) (by decide)]
    rfl
  | false =>
    have hnested : Keyed.has (nestType object) "$ref" = false := by
      rw [Keyed.has_eq_isSome, get?_nestType (by decide) (by decide), ← Keyed.has_eq_isSome,
        hinline]
    rw [if_neg Bool.false_ne_true, Option.bind_some, counted?,
      followed_eq_self (reference?_eq_none_of_has hnested)]
    rcases h.keeps with hkeeps | hkeeps | ⟨location, hin, hquery, hpath⟩
    · rw [nestType_eq_self (.inl hkeeps)]
    · rw [nestType_eq_self (.inr hkeeps)]
    · have hnestedIn : Keyed.get? (nestType object) "in" = some (.text location) := by
        rw [get?_nestType (by decide) (by decide), hin]
      rw [filter_parameter?_eq_none hin hquery hpath,
        filter_parameter?_eq_none hnestedIn hquery hpath]

/-- A reference to a portable parameter counts for the same as the parameter in its place. -/
theorem counted?_of_standsFor {node twin : Value}
    (h : StandsFor shared "parameters" IsPortableParameter node twin)
    (hstated : sharedNormal.get? "parameters" = shared.get? "parameters")
    (hleads : ∀ converted, convertParameter? twin = some converted →
      followed (.map normal) converted = followed (.map sharedNormal) converted) :
    (convertParameter? node).bind (counted? (.map sharedNormal)) =
      (convertParameter? twin).bind (counted? (.map normal)) := by
  cases h with
  | itself =>
    cases hconverted : convertParameter? node with
    | none => rfl
    | some converted =>
      rw [Option.bind_some, Option.bind_some, counted?, counted?, hleads converted hconverted]
  | object hkeys hobject hinline hportable =>
    rw [← hstated] at hobject
    rw [counted?_of_isPortable hinline hportable, ← followed_referenceNode hkeys hobject hinline]
    rfl

/-- A parameter list counts for the same with objects in the places of references to them. -/
theorem counted_converted {nodes twins : List Value}
    (h : List.Forall₂ (StandsFor shared "parameters" IsPortableParameter) nodes twins)
    (hstated : sharedNormal.get? "parameters" = shared.get? "parameters")
    (hleads : ∀ twin ∈ twins, ∀ converted, convertParameter? twin = some converted →
      followed (.map normal) converted = followed (.map sharedNormal) converted) :
    counted (.map sharedNormal) (nodes.filterMap convertParameter?) =
      counted (.map normal) (twins.filterMap convertParameter?) := by
  rw [counted, counted, List.filterMap_filterMap, List.filterMap_filterMap]
  induction h with
  | nil => rfl
  | cons hfirst _ ih =>
    obtain ⟨htwin, htwins⟩ := List.forall_mem_cons.mp hleads
    rw [List.filterMap_cons, List.filterMap_cons, counted?_of_standsFor hfirst hstated htwin,
      ih htwins]

/-- References to portable parameters state no request body, and neither do these. -/
theorem findSome?_parameterBody? {nodes twins : List Value}
    (h : List.Forall₂ (StandsFor shared "parameters" IsPortableParameter) nodes twins) :
    nodes.reverse.findSome? parameterBody? = twins.reverse.findSome? parameterBody? := by
  induction h with
  | nil => rfl
  | cons hfirst _ ih =>
    rw [List.reverse_cons, List.reverse_cons, List.findSome?_append, List.findSome?_append, ih,
      List.findSome?_singleton, List.findSome?_singleton]
    congr 1
    cases hfirst with
    | itself => rfl
    | object _ _ _ hportable =>
      rw [parameterBody?, parameterBody?, hportable.not_body]
      rfl

/-! ## Responses -/

/-- A response that means the same in both layouts: it has content, or no schema that could become
its content. -/
def IsPortableResponse (object : Entries) : Prop :=
  object.has "content" = true ∨ ∀ schema, object.get? "schema" ≠ some (.map schema)

theorem get?_contentOfSchema_of_ne (hschema : name ≠ "schema") (hcontent : name ≠ "content") :
    (contentOfSchema node).get? name = node.get? name := by
  unfold contentOfSchema
  split
  · split
    · rfl
    · rw [Keyed.get?_putText, if_neg hcontent, Keyed.get?_remove, if_neg hschema]
  · rfl

theorem jsonSchema?_contentOfSchema (h : IsPortableResponse object) :
    Route.jsonSchema? (.map (contentOfSchema object)) = Route.jsonSchema? (.map object) := by
  unfold contentOfSchema
  split
  · next schema hschema =>
    split
    · rfl
    · next hcontent =>
      -- a schema that is no mapping is none of a body or a response, with content or without
      have hnone : object.get? "content" = none := by simpa [Keyed.has] using hcontent
      have hplain (entries : Entries) : schema ≠ .map entries := by
        rintro rfl
        exact h.resolve_left hcontent entries hschema
      have hconverted : Value.get? (.map ((object.remove "schema").putText "content"
          (jsonContent schema))) "content" = some (jsonContent schema) := by
        rw [Value.get?, Value.map?, Option.bind_some, Keyed.get?_putText, if_pos rfl]
      have hjson : ((jsonContent schema).get? "application/json").bind (Value.get? · "schema") =
          some schema := rfl
      have hbefore : Value.get? (.map object) "content" = none := hnone
      rw [Route.jsonSchema?, Route.jsonSchema?, hconverted, hbefore, Option.bind_some, hjson]
      cases schema with
      | map entries => exact absurd rfl (hplain entries)
      | _ => rfl
  · rfl

/-- A response has the same schema with an object in the place of a reference to it. -/
theorem jsonSchema?_convertResponse {node twin : Value}
    (h : StandsFor shared "responses" IsPortableResponse node twin)
    (hstated : sharedNormal.get? "responses" = shared.get? "responses")
    (hleads : followed (.map normal) (convertResponse twin) =
      followed (.map sharedNormal) (convertResponse twin)) :
    Route.jsonSchema? (followed (.map sharedNormal) (convertResponse node)) =
      Route.jsonSchema? (followed (.map normal) (convertResponse twin)) := by
  cases h with
  | itself => rw [hleads]
  | @object reference name object hkeys hobject hinline hportable =>
    have hconverted : Keyed.has (contentOfSchema object) "$ref" = false := by
      rw [Keyed.has_eq_isSome, get?_contentOfSchema_of_ne (by decide) (by decide),
        ← Keyed.has_eq_isSome, hinline]
    have hreference : convertResponse (.map (referenceNode reference)) =
        .map (referenceNode reference) := rfl
    rw [← hstated] at hobject
    rw [hreference, followed_referenceNode hkeys hobject hinline, convertResponse,
      followed_eq_self (reference?_eq_none_of_has hconverted),
      jsonSchema?_contentOfSchema hportable]

/-! ## Operations -/

/-- An operation of a document with references to shared objects, and the operation with these
objects in their places. -/
structure Operation.Shares (document : Entries) (operation twin : Operation) : Prop where
  method_eq : operation.method = twin.method
  path_eq : operation.path = twin.path
  node_eq : ∀ key, key ≠ "parameters" → key ≠ "responses" →
    operation.node.get? key = twin.node.get? key
  item_parameters : List.Forall₂ (StandsFor document "parameters" IsPortableParameter)
    (parameterEntries operation.item) (parameterEntries twin.item)
  node_parameters : List.Forall₂ (StandsFor document "parameters" IsPortableParameter)
    (parameterEntries operation.node) (parameterEntries twin.node)
  response : StandsFor document "responses" IsPortableResponse
    (successResponse operation.node) (successResponse twin.node)

theorem Operation.Shares.get?_converted {operation twin : Operation}
    (h : operation.Shares document twin) {key : String} (hparameters : key ≠ "parameters")
    (hbody : key ≠ "requestBody") (hresponses : key ≠ "responses") :
    operation.converted.node.get? key = twin.converted.node.get? key := by
  have hget (other : Operation) : other.converted.node.get? key = other.node.get? key := by
    rw [Operation.converted, get?_convertOperation_of_ne _ hbody hresponses,
      get?_convertParameters_of_ne hparameters]
  rw [hget, hget, h.node_eq key hparameters hresponses]

theorem Operation.Shares.get?_requestBody_converted {operation twin : Operation}
    (h : operation.Shares document twin) :
    operation.converted.node.get? "requestBody" = twin.converted.node.get? "requestBody" := by
  rw [Operation.converted, Operation.converted, get?_requestBody_convertOperation,
    get?_requestBody_convertOperation, h.node_eq "requestBody" (by decide) (by decide), statedBody,
    statedBody, statedBody, statedBody, findSome?_parameterBody? h.item_parameters,
    findSome?_parameterBody? h.node_parameters]

theorem parameterList_converted (operation : Operation) :
    parameterList operation.converted.item ++ parameterList operation.converted.node =
      (parameterEntries operation.item ++ parameterEntries operation.node).filterMap
        convertParameter? := by
  rw [Operation.converted, parameterList_convertedItem, parameterList_convertOperation,
    convertedParameters, convertedParameters, List.filterMap_append]

/-- In the new layout, the operation with references is read as its twin with the objects. -/
theorem Operation.Shares.readsAlike {operation twin : Operation}
    (h : operation.Shares shared twin)
    (hstated : ∀ kind ∈ ["parameters", "responses"], sharedNormal.get? kind = shared.get? kind)
    (htwin : twin.converted ∈ operations (.map normal))
    (hleads : LeadsAlike (.map normal) (.map sharedNormal)) :
    Route.ReadsAlike (.map sharedNormal) (.map normal) operation.converted twin.converted where
  method_eq := h.method_eq
  path_eq := h.path_eq
  texts_eq key hkey := by
    refine h.get?_converted ?_ ?_ ?_ <;> rintro rfl <;> exact absurd hkey (by decide)
  counted_eq := by
    obtain ⟨hitem, hnode⟩ := parts_subset_of_mem_operations htwin
    have hlists : List.Forall₂ (StandsFor shared "parameters" IsPortableParameter)
        (parameterEntries operation.item ++ parameterEntries operation.node)
        (parameterEntries twin.item ++ parameterEntries twin.node) :=
      List.rel_append h.item_parameters h.node_parameters
    rw [parameterList_converted, parameterList_converted]
    refine counted_converted hlists (hstated "parameters" (by decide))
      fun entry hentry converted hconverted ↦ hleads converted ?_
    have hmem := List.mem_filterMap.mpr ⟨entry, hentry, hconverted⟩
    rw [← parameterList_converted, List.mem_append] at hmem
    rcases hmem with hmem | hmem
    · exact hitem (Route.parts_subset_of_mem_parameterList hmem (Value.mem_parts_self converted))
    · exact hnode (Route.parts_subset_of_mem_parameterList hmem (Value.mem_parts_self converted))
  body_eq := by
    rw [h.get?_requestBody_converted]
    cases hbody : twin.converted.node.get? "requestBody" with
    | none => rw [Option.getD_none, followed_eq_self rfl, followed_eq_self rfl]
    | some body =>
      have hnode := (parts_subset_of_mem_operations htwin).2
      have hpart := hnode (Value.parts_subset_of_find? hbody (Value.mem_parts_self body))
      exact (hleads body hpart).symm
  response_eq := by
    have hresponse (other : Operation) : successResponse other.converted.node =
        convertResponse (successResponse other.node) :=
      successResponse_convertOperation ..
    rw [hresponse, hresponse]
    refine jsonSchema?_convertResponse h.response (hstated "responses" (by decide)) ?_
    rw [← hresponse]
    rcases Route.parts_successResponse_subset twin.converted.node with hnull | hsubset
    · rw [hnull, followed_eq_self rfl, followed_eq_self rfl]
    · have hnode := (parts_subset_of_mem_operations htwin).2
      exact hleads _ (hnode (hsubset (Value.mem_parts_self _)))

/-! ## Documents -/

/-- A document of version 2 with references to shared objects, and one with these objects in their
places. Besides, the two may differ in what compilation does not read. -/
structure Shares (shared document : Entries) : Prop where
  stated_eq : ∀ key ∈ ["swagger", "components", "definitions"], shared.get? key = document.get? key
  operations : List.Forall₂ (Operation.Shares shared) (operations (.map shared))
    (operations (.map document))

theorem Shares.isLegacy_eq (h : Shares shared document) : isLegacy shared = isLegacy document := by
  rw [isLegacy, isLegacy, statedVersion, statedVersion, h.stated_eq "swagger" (by decide)]

/-- Either both documents are brought into the new layout, or both are refused for their
components. -/
theorem Shares.normalise_cases (h : Shares shared document) (hlegacy : isLegacy document = true) :
    (∃ normal sharedNormal, (normalise document).outcome = .ok normal ∧
        (normalise shared).outcome = .ok sharedNormal) ∨
      ∃ failure, (normalise document).outcome = .error failure ∧
        (normalise shared).outcome = .error failure :=
  Document.normalise_cases hlegacy (h.isLegacy_eq.trans hlegacy)
    (h.stated_eq "components" (by decide))

theorem Shares.componentNodes_eq (h : Shares shared document) (hlegacy : isLegacy document = true)
    (hshared : (normalise shared).outcome = .ok sharedNormal)
    (hnormal : (normalise document).outcome = .ok normal) :
    componentNodes (.map sharedNormal) = componentNodes (.map normal) := by
  have hsharedLegacy : isLegacy shared = true := h.isLegacy_eq.trans hlegacy
  apply componentNodes_eq_of_get?_eq
  · exact get?_components_eq_of_normalise hlegacy hsharedLegacy
      (h.stated_eq "components" (by decide)) (h.stated_eq "definitions" (by decide)) hnormal hshared
  · rw [get?_normalise_of_ne hlegacy hnormal (by decide) (by decide),
      get?_normalise_of_ne hsharedLegacy hshared (by decide) (by decide),
      h.stated_eq "definitions" (by decide)]

theorem Shares.readsAlike (h : Shares shared document) (hlegacy : isLegacy document = true)
    (hshared : (normalise shared).outcome = .ok sharedNormal)
    (hnormal : (normalise document).outcome = .ok normal)
    (hleads : LeadsAlike (.map normal) (.map sharedNormal)) :
    List.Forall₂ (Route.ReadsAlike (.map sharedNormal) (.map normal))
      (Document.operations (.map sharedNormal)) (Document.operations (.map normal)) := by
  have hsharedLegacy : isLegacy shared = true := h.isLegacy_eq.trans hlegacy
  have hstated : ∀ kind ∈ ["parameters", "responses"],
      sharedNormal.get? kind = shared.get? kind := by
    intro kind hkind
    refine get?_normalise_of_ne hsharedLegacy hshared ?_ ?_ <;> rintro rfl <;>
      exact absurd hkind (by decide)
  have hoperations := operations_normalise hlegacy hnormal
  have htwins : ∀ twin ∈ Document.operations (.map document),
      twin.converted ∈ Document.operations (.map normal) := by
    intro twin htwin
    rw [hoperations]
    exact List.mem_map_of_mem htwin
  have hpairs := ((List.forall₂_and_left _ _).mpr ⟨htwins, h.operations.flip⟩).flip
  rw [operations_normalise hsharedLegacy hshared, hoperations, List.forall₂_map_left_iff,
    List.forall₂_map_right_iff]
  exact hpairs.imp fun _ _ hpair ↦ hpair.2.readsAlike hstated hpair.1 hleads

end ApiCompiler.Document
