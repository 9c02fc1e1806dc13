import ApiCompiler.Document.Parse
import ApiCompiler.Document.Sample
import ApiCompiler.Proofs.Document.Normalise

/-!
# Documents that are in the new layout already

A document in the layout of version 3 still states its version, so that it is brought into this
layout again when it is compiled from its text. Where no part of a document is shared this changes
nothing: each edit leaves a node that the same edit keeps. A shared mapping may be edited twice, as
a parameter and as a response, and the second edit takes away what the first one relied on.
-/

namespace ApiCompiler.Document

open Sample (object typed)
open Value (Entries Keyed)
open Value.Keyed (Holds)

/-! ## Parameters and responses -/

/-- A parameter in the new layout: neither in a body nor in a form, and with a schema if it states a
type. -/
def IsNormalParameter (p : Value) : Prop :=
  ∀ node ∈ p.map?, isLocated node "body" = false ∧ isLocated node "formData" = false ∧
    (node.has "type" = true → node.has "schema" = true)

/-- A response in the new layout: with content if it has a schema. -/
def IsNormalResponse (response : Value) : Prop :=
  ∀ node ∈ response.map?, node.has "schema" = true → node.has "content" = true

theorem nestType_has_schema {node : Entries} (h : (nestType node).has "type" = true) :
    (nestType node).has "schema" = true := by
  unfold nestType at h ⊢
  split
  · rw [Keyed.has_eq_isSome, Keyed.get?_putText, if_pos rfl]
    rfl
  · next hkept =>
    rw [if_neg hkept] at h
    simpa [h] using hkept

theorem isLocated_nestType (node : Entries) (location : String) :
    isLocated (nestType node) location = isLocated node location := by
  rw [isLocated, get?_nestType (by decide) (by decide), isLocated]

/-- What becomes of an entry of a parameter list is in the new layout. -/
theorem isNormalParameter_of_convertParameter? {before after : Value}
    (h : convertParameter? before = some after) : IsNormalParameter after := by
  cases before with
  | map node =>
    rw [convertParameter?] at h
    split at h
    · cases h
    · next hlocated =>
      obtain rfl := Option.some.inj h
      rw [Bool.or_eq_true, not_or, Bool.not_eq_true, Bool.not_eq_true] at hlocated
      rintro nested ⟨⟩
      exact ⟨(isLocated_nestType node "body").trans hlocated.1,
        (isLocated_nestType node "formData").trans hlocated.2, nestType_has_schema⟩
  | _ =>
    obtain rfl := Option.some.inj h
    rintro nested ⟨⟩

/-- A parameter in the new layout is kept as it is, and states no body. -/
theorem IsNormalParameter.convertParameter?_eq {p : Value} (h : IsNormalParameter p) :
    convertParameter? p = some p ∧ parameterBody? p = none := by
  cases p with
  | map node =>
    obtain ⟨hbody, hform, hschema⟩ := h node rfl
    have hnested : nestType node = node := by
      unfold nestType
      split
      · next hbare =>
        rw [Bool.and_eq_true, Bool.not_eq_true'] at hbare
        exact absurd (hschema hbare.2) (by rw [hbare.1]; exact Bool.false_ne_true)
      · rfl
    simp [convertParameter?, parameterBody?, hbody, hform, hnested]
  | _ => exact ⟨rfl, rfl⟩

theorem contentOfSchema_has_content {node : Entries}
    (h : (contentOfSchema node).has "schema" = true) :
    (contentOfSchema node).has "content" = true := by
  unfold contentOfSchema at h ⊢
  split
  · split
    · assumption
    · rw [Keyed.has_eq_isSome, Keyed.get?_putText, if_pos rfl]
      rfl
  · next hnone =>
    simp only [hnone] at h
    rw [Keyed.has_eq_isSome, hnone] at h
    cases h

theorem isNormalResponse_convertResponse (response : Value) :
    IsNormalResponse (convertResponse response) := by
  cases response with
  | map node =>
    rintro converted ⟨⟩
    exact contentOfSchema_has_content
  | _ => rintro converted ⟨⟩

/-- A response in the new layout is kept as it is. -/
theorem IsNormalResponse.convertResponse_eq {response : Value} (h : IsNormalResponse response) :
    convertResponse response = response := by
  cases response with
  | map node =>
    rw [convertResponse, contentOfSchema]
    split
    · next schema hschema =>
      have hcontent : Keyed.has node "content" = true :=
        h node rfl (by rw [Keyed.has_eq_isSome, hschema]; rfl)
      rw [if_pos hcontent]
    · rfl
  | _ => rfl

/-! ## Parts of a node -/

/-- A node whose parameters, if it states any, are one list in the new layout. -/
structure HasNormalParameters (node : Entries) : Prop where
  holds : node.has "parameters" = true → Holds node "parameters" (.list (parameterEntries node))
  isNormal : ∀ p ∈ parameterEntries node, IsNormalParameter p

/-- A node whose responses, if it has a mapping of them, are in the new layout. -/
structure HasNormalResponses (node : Entries) : Prop where
  holds : ∀ responses, node.get? "responses" = some (.map responses) →
    Holds node "responses" (.map responses)
  isNormal : ∀ responses, node.get? "responses" = some (.map responses) →
    ∀ entry ∈ responses, IsNormalResponse entry.2

variable {node : Entries}

theorem hasNormalParameters_convertParameters (node : Entries) :
    HasNormalParameters (convertParameters node) := by
  have hentries : parameterEntries (convertParameters node) = convertedParameters node :=
    parameterList_convertParameters node
  refine ⟨fun hhas ↦ ?_, fun p hp ↦ ?_⟩
  · rw [hentries]
    unfold convertParameters at hhas ⊢
    split
    · exact Keyed.holds_putText node "parameters" _
    · next hnone =>
      rw [if_neg hnone] at hhas
      exact absurd hhas hnone
  · rw [hentries, convertedParameters, List.mem_filterMap] at hp
    obtain ⟨before, -, hbefore⟩ := hp
    exact isNormalParameter_of_convertParameter? hbefore

/-- What a node has under other keys does not matter to its parameters. -/
theorem HasNormalParameters.putText_of_ne (h : HasNormalParameters node) {name : String}
    (hne : "parameters" ≠ name) (v : Value) : HasNormalParameters (node.putText name v) := by
  have hget : (node.putText name v).get? "parameters" = node.get? "parameters" := by
    rw [Keyed.get?_putText, if_neg hne]
  have hentries : parameterEntries (node.putText name v) = parameterEntries node := by
    rw [parameterEntries, hget, parameterEntries]
  refine ⟨fun hhas ↦ ?_, hentries ▸ h.isNormal⟩
  rw [hentries]
  rw [Keyed.has_eq_isSome, hget] at hhas
  exact (h.holds hhas).putText_of_ne hne v

theorem HasNormalParameters.convertParameters_eq (h : HasNormalParameters node) :
    convertParameters node = node := by
  unfold convertParameters
  split
  · next hhas =>
    have hkept : (parameterEntries node).filterMap convertParameter? = parameterEntries node := by
      rw [List.filterMap_congr fun p hp ↦ (h.isNormal p hp).convertParameter?_eq.1,
        List.filterMap_some]
    rw [hkept]
    exact (h.holds hhas).putText_eq
  · rfl

theorem HasNormalParameters.statedBody_eq (h : HasNormalParameters node) :
    statedBody node = none := by
  rw [statedBody, List.findSome?_eq_none_iff]
  exact fun p hp ↦ (h.isNormal p (List.mem_reverse.mp hp)).convertParameter?_eq.2

theorem HasNormalResponses.of_holds {responses : Entries}
    (h : Holds node "responses" (.map responses))
    (hnormal : ∀ entry ∈ responses, IsNormalResponse entry.2) : HasNormalResponses node := by
  have hsame : ∀ others, node.get? "responses" = some (.map others) → others = responses :=
    fun others hothers ↦ by simpa using hothers.symm.trans h.get?_eq
  constructor
  · rintro others hothers
    exact hsame others hothers ▸ h
  · rintro others hothers
    exact hsame others hothers ▸ hnormal

theorem hasNormalResponses_convertResponses (node : Entries) :
    HasNormalResponses (convertResponses node) := by
  unfold convertResponses
  split
  · next responses _ =>
    refine .of_holds (Keyed.holds_putText node "responses" _) fun entry hentry ↦ ?_
    obtain ⟨before, -, rfl⟩ := List.mem_map.mp hentry
    exact isNormalResponse_convertResponse before.2
  · next hnone =>
    exact ⟨fun others hothers ↦ absurd hothers (hnone others),
      fun others hothers ↦ absurd hothers (hnone others)⟩

theorem HasNormalResponses.convertResponses_eq (h : HasNormalResponses node) :
    convertResponses node = node := by
  unfold convertResponses
  split
  · next responses hresponses =>
    have hkept : (responses.map fun entry ↦ (entry.1, convertResponse entry.2)) = responses := by
      refine (List.map_congr_left fun entry hentry ↦ ?_).trans (List.map_id responses)
      rw [(h.isNormal responses hresponses entry hentry).convertResponse_eq, id_eq]
    rw [hkept]
    exact (h.holds responses hresponses).putText_eq
  · rfl

/-! ## Operations and path items -/

theorem HasNormalParameters.convertResponses (h : HasNormalParameters node) :
    HasNormalParameters (convertResponses node) := by
  unfold Document.convertResponses
  split
  · exact h.putText_of_ne (by decide) _
  · exact h

theorem hasNormalParameters_convertOperation (shared : Option Value) (node : Entries) :
    HasNormalParameters (convertOperation shared node) := by
  have hparameters := hasNormalParameters_convertParameters node
  rw [convertOperation]
  apply HasNormalParameters.convertResponses
  split
  · split
    · exact hparameters
    · exact hparameters.putText_of_ne (by decide) _
  · exact hparameters

theorem hasNormalResponses_convertOperation (shared : Option Value) (node : Entries) :
    HasNormalResponses (convertOperation shared node) :=
  hasNormalResponses_convertResponses _

/-- An operation is in the new layout once it has been converted, whatever body its path item
stated. -/
theorem convertOperation_convertOperation (shared : Option Value) (node : Entries) :
    convertOperation none (convertOperation shared node) = convertOperation shared node := by
  have hparameters := hasNormalParameters_convertOperation shared node
  have hresponses := hasNormalResponses_convertOperation shared node
  generalize convertOperation shared node = converted at hparameters hresponses
  rw [convertOperation, hparameters.convertParameters_eq, hparameters.statedBody_eq]
  exact hresponses.convertResponses_eq

theorem convertMethod_convertMethod (shared : Option Value) (entry : Value × Value) :
    convertMethod none (convertMethod shared entry) = convertMethod shared entry := by
  obtain ⟨key, v⟩ := entry
  cases key with
  | text method =>
    cases v with
    | map node =>
      cases hmethod : httpMethods.contains method with
      | true =>
        have honce (shared : Option Value) (node : Entries) :
            convertMethod shared (.text method, .map node) =
              (.text method, .map (convertOperation shared node)) := by
          rw [convertMethod, if_pos hmethod]
        rw [honce, honce, convertOperation_convertOperation]
      | false =>
        have hother : method ∉ httpMethods := by simpa using hmethod
        have hkept (shared : Option Value) : convertMethod shared (.text method, .map node) =
            (.text method, .map node) := convertMethod_of_not_mem rfl hother
        rw [hkept, hkept]
    | _ => rfl
  | _ => rfl

theorem hasNormalParameters_convertedItem (item : Entries) :
    HasNormalParameters (convertedItem item) := by
  obtain ⟨hholds, hnormal⟩ := hasNormalParameters_convertParameters item
  have hget : (convertedItem item).get? "parameters" =
      (convertParameters item).get? "parameters" := get?_convertedItem_of_not_mem (by decide)
  have hentries : parameterEntries (convertedItem item) =
      parameterEntries (convertParameters item) := by
    rw [parameterEntries, hget, parameterEntries]
  refine ⟨fun hhas ↦ ⟨hhas, fun entry hentry hkey ↦ ?_⟩, hentries ▸ hnormal⟩
  obtain ⟨before, hbefore, rfl⟩ := List.mem_map.mp hentry
  rw [convertMethod_fst] at hkey
  rw [convertMethod_of_not_mem (Keyed.keyIs_iff.mp hkey) (by decide), hentries]
  rw [Keyed.has_eq_isSome, hget] at hhas
  exact (hholds hhas).2 before hbefore hkey

/-- A path item is in the new layout once it has been converted. -/
theorem convertedItem_convertedItem (item : Entries) :
    convertedItem (convertedItem item) = convertedItem item := by
  have hparameters := hasNormalParameters_convertedItem item
  rw [convertedItem, hparameters.convertParameters_eq, hparameters.statedBody_eq, convertedItem,
    List.map_map]
  exact List.map_congr_left fun entry _ ↦ convertMethod_convertMethod _ entry

theorem convertItem_convertItem (entry : Value × Value) :
    convertItem (convertItem entry) = convertItem entry := by
  obtain ⟨path, v⟩ := entry
  cases v with
  | map item =>
    exact congrArg (fun item ↦ (path, Value.map item)) (convertedItem_convertedItem item)
  | _ => rfl

/-! ## Documents -/

/-- A document in the new layout: the parameters of its path items and operations are, and so are
the responses of its operations. -/
structure IsNormal (document : Entries) : Prop where
  items : ∀ entry ∈ paths (.map document), ∀ item ∈ entry.2.map?,
    ∀ p ∈ parameterEntries item, IsNormalParameter p
  operations : ∀ operation ∈ operations (.map document),
    (∀ p ∈ parameterEntries operation.node, IsNormalParameter p) ∧
      ∀ responses, operation.node.get? "responses" = some (.map responses) →
        ∀ entry ∈ responses, IsNormalResponse entry.2

variable {document normal : Entries}

theorem isNormal_normalise (h : isLegacy document = true)
    (hnormal : (normalise document).outcome = .ok normal) : IsNormal normal where
  items := by
    obtain ⟨components, -, rfl⟩ := exists_components_of_normalise h hnormal
    rintro entry hentry item hitem
    rw [paths_convertPaths] at hentry
    obtain ⟨⟨path, v⟩, -, rfl⟩ := List.mem_map.mp hentry
    cases v with
    | map before =>
      obtain rfl := Option.some.inj hitem
      exact (hasNormalParameters_convertedItem before).isNormal
    | _ => cases hitem
  operations := by
    rw [operations_normalise h hnormal]
    rintro operation hoperation
    obtain ⟨before, -, rfl⟩ := List.mem_map.mp hoperation
    exact ⟨(hasNormalParameters_convertOperation _ before.node).isNormal,
      (hasNormalResponses_convertOperation _ before.node).isNormal⟩

theorem holds_convertPaths {name : String} {v : Value} (h : Holds document name v)
    (hne : name ≠ "paths") : Holds (convertPaths document) name v := by
  unfold convertPaths
  split
  · exact h.putText_of_ne hne _
  · exact h

theorem convertPaths_convertPaths (document : Entries) :
    convertPaths (convertPaths document) = convertPaths document := by
  by_cases hmap : ∃ items, document.get? "paths" = some (.map items)
  · obtain ⟨items, hitems⟩ := hmap
    have honce (document items : Entries) (h : document.get? "paths" = some (.map items)) :
        convertPaths document = document.putText "paths" (.map (items.map convertItem)) := by
      rw [convertPaths, h]
    have hholds := Keyed.holds_putText document "paths" (.map (items.map convertItem))
    have hkept : (items.map convertItem).map convertItem = items.map convertItem := by
      rw [List.map_map]
      exact List.map_congr_left fun entry _ ↦ convertItem_convertItem entry
    rw [honce document items hitems, honce _ _ hholds.get?_eq, hkept, hholds.putText_eq]
  · have hkept : convertPaths document = document := by
      unfold convertPaths
      split
      · next items hitems => exact absurd ⟨items, hitems⟩ hmap
      · rfl
    rw [hkept, hkept]

theorem isLegacy_normalise (h : isLegacy document = true)
    (hnormal : (normalise document).outcome = .ok normal) : isLegacy normal = true := by
  rw [isLegacy, statedVersion, get?_normalise_of_ne h hnormal (by decide) (by decide)]
  exact h

/-- Bringing a document into the new layout again changes nothing. -/
theorem normalise_normalise (h : isLegacy document = true)
    (hnormal : (normalise document).outcome = .ok normal) :
    (normalise normal).outcome = .ok normal := by
  have hdefinitions : normal.get? "definitions" = document.get? "definitions" :=
    get?_normalise_of_ne h hnormal (by decide) (by decide)
  obtain ⟨components, -, hconverted⟩ := exists_components_of_normalise h hnormal
  let adopted : Entries :=
    Keyed.putText components "schemas" ((document.get? "definitions").getD (.map []))
  have hholds : Holds normal "components" (.map adopted) :=
    hconverted ▸ holds_convertPaths (Keyed.holds_putText document "components" _) (by decide)
  have hadopted : adoptedComponents normal adopted = .map adopted := by
    rw [adoptedComponents, hdefinitions, (Keyed.holds_putText components "schemas" _).putText_eq]
  have hpaths : convertPaths normal = normal := by rw [hconverted, convertPaths_convertPaths]
  calc
    (normalise normal).outcome =
        .ok (convertPaths (normal.putText "components" (adoptedComponents normal adopted))) := by
      rw [outcome_normalise (isLegacy_normalise h hnormal), hholds.get?_eq]
      rfl
    _ = .ok normal := by rw [hadopted, hholds.putText_eq, hpaths]

/-! ## Parsed documents -/

/-- A document in the new layout that stays the same, with its keys in order, when it is brought
into this layout. -/
structure IsNormalForm (document : Entries) : Prop extends IsNormal document where
  normalise_eq : (normalise document).outcome = .ok document

/-- A document of version 2 without shared parts is in normal form once it has been normalised. -/
theorem isNormalForm_of_normalise {parsed : Parsed} (hunshared : parsed.aliases = none)
    (hlegacy : isLegacy parsed.entries = true) (hnormal : parsed.normalise.outcome = .ok normal) :
    IsNormalForm normal := by
  have hentries : (normalise parsed.entries).outcome = .ok normal := by
    rw [Parsed.normalise, hunshared] at hnormal
    exact hnormal
  exact ⟨isNormal_normalise hlegacy hentries, normalise_normalise hlegacy hentries⟩

/-- A document of version 2 with all kinds of parameters, in a path item and in its operations, with
a body that an operation has already, and with responses in both layouts. -/
def mixedDocument : Parsed :=
  let parameter (name location : String) (rest : List (String × Value)) :=
    object ([("name", .text name), ("in", .text location)] ++ rest)
  let text := ("type", Value.text "string")
  let schema := ("schema", typed "integer")
  { entries := [(.text "swagger", .text "2.0"), (.text "definitions", .null),
      (.text "components", object [("schemas", .null), ("x", .null)]),
      (.text "paths", object [
        ("/null", .null),
        ("/r", object [
          ("parameters", .list [parameter "b" "body" [schema, text], .null,
            parameter "p" "path" [text]]),
          ("get", object [("parameters", .null), ("requestBody", .null), ("responses", .null)]),
          ("put", object [
            ("parameters", .list [parameter "c" "body" [], parameter "f" "formData" [text],
              parameter "q" "query" [text, ("format", .null), schema],
              parameter "h" "header" [("enum", .list []), text]]),
            ("responses", object [("200", object [schema]), ("201", .null),
              ("202", object [schema, ("content", .null)])])])])])] }

/-- A document of version 2 that uses one mapping, with a type and a schema, as a parameter and as a
response. -/
def sharedMappingGraph : Graph where
  cells := #[.map [(.text "swagger", 1), (.text "paths", 2)], .atom (.text "2.0"),
    .map [(.text "/r", 3)], .map [(.text "get", 4)],
    .map [(.text "parameters", 5), (.text "responses", 6)], .list [7], .map [(.text "200", 7)],
    .map [(.text "name", 8), (.text "in", 9), (.text "type", 10), (.text "schema", 11)],
    .atom (.text "q"), .atom (.text "query"), .atom (.text "string"), .map [(.text "type", 12)],
    .atom (.text "string")]
  root := 0

/-- Whether an operation has a parameter with a type and without a schema. -/
def hasBareParameter (document : Entries) : Bool :=
  (operations (.map document)).any fun operation ↦
    (parameterEntries operation.node).any fun p ↦
      p.map?.any fun node ↦ node.has "type" && !node.has "schema"

theorem hasBareParameter_eq_false (h : IsNormal document) : hasBareParameter document = false := by
  rw [Bool.eq_false_iff]
  intro hbare
  obtain ⟨operation, hoperation, hbare⟩ := List.any_eq_true.mp hbare
  obtain ⟨p, hp, hbare⟩ := List.any_eq_true.mp hbare
  obtain ⟨node, hnode, hbare⟩ := Option.any_eq_true _ _ |>.mp hbare
  rw [Bool.and_eq_true, Bool.not_eq_true'] at hbare
  obtain ⟨-, -, hschema⟩ := (h.operations operation hoperation).1 p hp node hnode
  exact absurd (hschema hbare.1) (by rw [hbare.2]; exact Bool.false_ne_true)

/-- Normalising the first document gives a normal form. The second document is left with a parameter
that has lost its schema, and normalising it again changes it. -/
theorem mixedDocument_isNormalForm :
    (∃ normal, mixedDocument.normalise.outcome = .ok normal ∧ IsNormalForm normal) ∧
      ∃ shared, (Aliased.normalise sharedMappingGraph "2.0").outcome = .ok shared ∧
        ¬IsNormal ((shared.value 0).map?.getD []) ∧
        ∃ again, (Aliased.normalise shared "2.0").outcome = .ok again ∧
          again.value 0 ≠ shared.value 0 := by
  obtain ⟨normal, hnormal, -⟩ : ∃ normal, mixedDocument.normalise.outcome = .ok normal ∧ True := by
    decide
  obtain ⟨shared, hshared, hbare, again, hagain, hnested⟩ : ∃ shared,
      (Aliased.normalise sharedMappingGraph "2.0").outcome = .ok shared ∧
      hasBareParameter ((shared.value 0).map?.getD []) = true ∧
      ∃ again, (Aliased.normalise shared "2.0").outcome = .ok again ∧
        hasBareParameter ((again.value 0).map?.getD []) = false := by
    decide +kernel
  refine ⟨⟨normal, hnormal, isNormalForm_of_normalise rfl (by decide) hnormal⟩, shared,
    hshared, fun hnormal ↦ ?_, again, hagain, fun hsame ↦ ?_⟩
  · rw [hasBareParameter_eq_false hnormal] at hbare
    cases hbare
  · rw [hsame, hbare] at hnested
    cases hnested

end ApiCompiler.Document
