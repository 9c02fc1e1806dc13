import ApiCompiler.Document.Normalise
import ApiCompiler.Proofs.Report
import ApiCompiler.Proofs.Value.Keyed
import ApiCompiler.Route
import ApiCompiler.Schema.Table
import Mathlib.Data.List.Basic

/-!
# Operations in the new layout

A document of version 2 and the same document in the layout of version 3 have the same operations in
the same places. Each has been converted on its own, with nothing but the body that its path item
states besides.
-/

namespace ApiCompiler.Document

open Value (Entries Keyed)

/-! ## Converted nodes -/

/-- A path item in the new layout. -/
def convertedItem (item : Entries) : Entries :=
  (convertParameters item).map (convertMethod (statedBody item))

/-- An operation in the new layout. -/
def Operation.converted (operation : Operation) : Operation :=
  { operation with
    node := convertOperation (statedBody operation.item) operation.node
    item := convertedItem operation.item }

/-- A parameter list in the new layout. -/
def convertedParameters (node : Entries) : List Value :=
  (parameterEntries node).filterMap convertParameter?

theorem get?_nestType {node : Entries} {key : String} (hschema : key ≠ "schema")
    (hkey : key ∉ typeKeys) : (nestType node).get? key = node.get? key := by
  unfold nestType
  split
  · rw [Keyed.get?_putText, if_neg hschema, Keyed.get?_foldl_remove, if_neg hkey]
  · rfl

theorem get?_convertParameters_of_ne {node : Entries} {name : String} (h : name ≠ "parameters") :
    (convertParameters node).get? name = node.get? name := by
  unfold convertParameters
  split
  · rw [Keyed.get?_putText, if_neg h]
  · rfl

theorem get?_convertResponses_of_ne {node : Entries} {name : String} (h : name ≠ "responses") :
    (convertResponses node).get? name = node.get? name := by
  unfold convertResponses
  split
  · rw [Keyed.get?_putText, if_neg h]
  · rfl

theorem parameterList_convertParameters (node : Entries) :
    Route.parameterList (convertParameters node) = convertedParameters node := by
  unfold convertParameters
  split
  · rw [Route.parameterList, Keyed.get?_putText, if_pos rfl]
    rfl
  · next hnone =>
    rw [Keyed.has_eq_isSome, Bool.not_eq_true, Option.isSome_eq_false_iff,
      Option.isNone_iff_eq_none] at hnone
    rw [Route.parameterList, convertedParameters, parameterEntries, hnone]
    rfl

theorem get?_convertOperation_of_ne (shared : Option Value) {node : Entries} {name : String}
    (hbody : name ≠ "requestBody") (hresponses : name ≠ "responses") :
    (convertOperation shared node).get? name = (convertParameters node).get? name := by
  rw [convertOperation, get?_convertResponses_of_ne hresponses]
  split
  · split
    · rfl
    · rw [Keyed.get?_putText, if_neg hbody]
  · rfl

/-- An operation that states no request body has the one of its parameters, and without such the one
of its path item. -/
theorem get?_requestBody_convertOperation (shared : Option Value) (node : Entries) :
    (convertOperation shared node).get? "requestBody" =
      (node.get? "requestBody" <|> statedBody node <|> shared) := by
  have hget : (convertParameters node).get? "requestBody" = node.get? "requestBody" :=
    get?_convertParameters_of_ne (by decide)
  rw [convertOperation, get?_convertResponses_of_ne (by decide)]
  cases hbody : statedBody node <|> shared with
  | none => simp [hget]
  | some body =>
    simp only [Keyed.has_eq_isSome, hget]
    cases hnode : node.get? "requestBody" with
    | some own => simp [hget, hnode]
    | none => simp [Keyed.get?_putText]

theorem parameterList_convertOperation (shared : Option Value) (node : Entries) :
    Route.parameterList (convertOperation shared node) = convertedParameters node := by
  rw [← parameterList_convertParameters, Route.parameterList, Route.parameterList,
    get?_convertOperation_of_ne shared (by decide) (by decide)]

theorem lookup?_map_convertResponse (responses : Entries) (code : Value) :
    Keyed.lookup? (responses.map fun entry ↦ (entry.1, convertResponse entry.2)) code =
      (Keyed.lookup? responses code).map convertResponse := by
  rw [Keyed.lookup?, Keyed.lookup?, List.find?_map, Option.map_map, Option.map_map]
  rfl

theorem successResponse_convertResponses (node : Entries) :
    Route.successResponse (convertResponses node) =
      convertResponse (Route.successResponse node) := by
  unfold convertResponses
  split
  · next responses hresponses =>
    have hlookup : Keyed.lookup? (responses.map fun entry ↦ (entry.1, convertResponse entry.2)) =
        Option.map convertResponse ∘ Keyed.lookup? responses :=
      funext (lookup?_map_convertResponse responses)
    rw [Route.successResponse, Keyed.get?_putText, if_pos rfl, Route.successResponse, hresponses]
    simp only [hlookup, ← List.map_findSome?]
    cases List.findSome? (Keyed.lookup? responses) Route.successCodes <;> rfl
  · next hnone =>
    rw [Route.successResponse]
    split
    · next responses hresponses => exact absurd hresponses (hnone responses)
    · rfl

/-- The success response of an operation is converted on its own. -/
theorem successResponse_convertOperation (shared : Option Value) (node : Entries) :
    Route.successResponse (convertOperation shared node) =
      convertResponse (Route.successResponse node) := by
  have hget (before : Entries) (h : before.get? "responses" = node.get? "responses") :
      Route.successResponse before = Route.successResponse node := by
    rw [Route.successResponse, Route.successResponse, h]
  rw [convertOperation, successResponse_convertResponses]
  congr 1
  apply hget
  split
  · split
    · exact get?_convertParameters_of_ne (by decide)
    · rw [Keyed.get?_putText, if_neg (by decide), get?_convertParameters_of_ne (by decide)]
  · exact get?_convertParameters_of_ne (by decide)

/-! ## Converted path items -/

theorem convertMethod_fst (shared : Option Value) (entry : Value × Value) :
    (convertMethod shared entry).1 = entry.1 := by
  unfold convertMethod
  split
  · split <;> rfl
  · rfl

theorem convertMethod_of_not_mem {shared : Option Value} {entry : Value × Value} {name : String}
    (hkey : entry.1 = .text name) (h : name ∉ httpMethods) :
    convertMethod shared entry = entry := by
  obtain ⟨key, v⟩ := entry
  obtain rfl := hkey
  have hmethod : httpMethods.contains name = false := by simpa using h
  cases v <;> simp [convertMethod, h]

theorem get?_convertedItem_of_not_mem {item : Entries} {name : String} (h : name ∉ httpMethods) :
    (convertedItem item).get? name = (convertParameters item).get? name := by
  rw [convertedItem, Keyed.get?_map (convertMethod_fst _), Keyed.get?]
  cases hfound : List.find? (fun entry ↦ Keyed.keyIs name entry.1) (convertParameters item) with
  | none => rfl
  | some entry =>
    have hkey : Keyed.keyIs name entry.1 = true := by simpa using List.find?_some hfound
    rw [Option.map_some, Option.map_some, convertMethod_of_not_mem (Keyed.keyIs_iff.mp hkey) h]

theorem parameterList_convertedItem (item : Entries) :
    Route.parameterList (convertedItem item) = convertedParameters item := by
  rw [← parameterList_convertParameters, Route.parameterList, Route.parameterList,
    get?_convertedItem_of_not_mem (by decide)]

/-- What stands under a key that is no method makes no operation. -/
theorem operationOf_parameters (path : Value) (item : Entries) (v : Value) :
    operationOf path item (.text "parameters", v) = none := by
  cases v <;> rfl

theorem filterMap_operationOf_convertParameters (path : Value) (item other : Entries) :
    (convertParameters item).filterMap (operationOf path other) =
      item.filterMap (operationOf path other) := by
  unfold convertParameters
  split
  · next hhas =>
    have hany : item.any (fun entry ↦ Keyed.keyIs "parameters" entry.1) = true := by
      rw [Keyed.has_eq_isSome, Keyed.get?, Option.isSome_map, List.find?_isSome] at hhas
      exact List.any_eq_true.mpr hhas
    simp only [Keyed.putText, Keyed.put, Keyed.equals_text_eq_keyIs, hany, if_true]
    rw [List.filterMap_map]
    refine List.filterMap_congr fun entry _ ↦ ?_
    rw [Function.comp_apply]
    split
    · next hkey =>
      obtain ⟨key, v⟩ := entry
      obtain rfl : key = .text "parameters" := Keyed.keyIs_iff.mp hkey
      rw [operationOf_parameters, operationOf_parameters]
    · rfl
  · rfl

/-- An entry of a path item makes the same operation in both layouts. -/
theorem operationOf_convertMethod (path : Value) (item : Entries) (entry : Value × Value) :
    operationOf path (convertedItem item) (convertMethod (statedBody item) entry) =
      (operationOf path item entry).map Operation.converted := by
  obtain ⟨key, v⟩ := entry
  cases key with
  | text method =>
    cases v with
    | map node =>
      cases hmethod : httpMethods.contains method <;>
        simp only [convertMethod, operationOf, hmethod, if_true, Bool.false_eq_true, if_false]
      · rfl
      · rfl
    | _ => rfl
  | _ => rfl

theorem operationsOfItem_convertItem (entry : Value × Value) :
    operationsOfItem (convertItem entry) = (operationsOfItem entry).map Operation.converted := by
  obtain ⟨path, v⟩ := entry
  cases v with
  | map item =>
    calc
      operationsOfItem (convertItem (path, .map item)) =
          (convertParameters item).filterMap fun entry ↦
            operationOf path (convertedItem item) (convertMethod (statedBody item) entry) := by
        rw [convertItem, operationsOfItem, List.filterMap_map]
        rfl
      _ = (convertParameters item).filterMap fun entry ↦
          (operationOf path item entry).map Operation.converted := by
        simp only [operationOf_convertMethod]
      _ = ((convertParameters item).filterMap (operationOf path item)).map
          Operation.converted := (List.map_filterMap ..).symm
      _ = (operationsOfItem (path, .map item)).map Operation.converted := by
        rw [filterMap_operationOf_convertParameters, operationsOfItem]
  | _ => rfl

/-! ## Converted documents -/

variable {document normal : Entries}

/-- A document whose path items are changed. -/
def mapPaths (change : Value × Value → Value × Value) (document : Entries) : Entries :=
  match document.get? "paths" with
  | some (.map items) => document.putText "paths" (.map (items.map change))
  | _ => document

theorem paths_mapPaths (change : Value × Value → Value × Value) (document : Entries) :
    paths (.map (mapPaths change document)) = (paths (.map document)).map change := by
  have hget (entries : Entries) :
      (Value.map entries).get? "paths" = entries.get? "paths" := rfl
  unfold mapPaths
  split
  · next items hitems =>
    rw [paths, paths, hget, hget, Keyed.get?_putText, if_pos rfl, hitems]
  · next hnone =>
    rw [paths, hget]
    split
    · next items hitems => exact absurd hitems (hnone items)
    · rfl

theorem get?_mapPaths_of_ne (change : Value × Value → Value × Value) {name : String}
    (h : name ≠ "paths") : (mapPaths change document).get? name = document.get? name := by
  unfold mapPaths
  split
  · rw [Keyed.get?_putText, if_neg h]
  · rfl

theorem paths_convertPaths (document : Entries) :
    paths (.map (convertPaths document)) = (paths (.map document)).map convertItem :=
  paths_mapPaths convertItem document

theorem get?_convertPaths_of_ne {name : String} (h : name ≠ "paths") :
    (convertPaths document).get? name = document.get? name :=
  get?_mapPaths_of_ne convertItem h

/-- The components of a document in the new layout. -/
def adoptedComponents (document components : Entries) : Value :=
  .map (components.putText "schemas" ((document.get? "definitions").getD (.map [])))

/-- A document of version 2 gets its definitions among its components, and its paths converted. -/
theorem outcome_normalise (h : isLegacy document = true) :
    (normalise document).outcome =
      match (document.get? "components").getD (.map []) with
      | .map components => .ok (convertPaths
          (document.putText "components" (adoptedComponents document components)))
      | other => .error (.fixedComponents other) := by
  rw [normalise, if_pos h, Report.outcome_bind_of_ok (Report.outcome_note _), Report.outcome_bind,
    adoptDefinitions]
  cases (document.get? "components").getD (.map []) <;> rfl

theorem exists_components_of_normalise (h : isLegacy document = true)
    (hnormal : (normalise document).outcome = .ok normal) :
    ∃ components, (document.get? "components").getD (.map []) = .map components ∧
      normal = convertPaths
        (document.putText "components" (adoptedComponents document components)) := by
  rw [outcome_normalise h] at hnormal
  split at hnormal
  · next components hcomponents =>
    rw [Except.ok.injEq] at hnormal
    exact ⟨components, hcomponents, hnormal.symm⟩
  · cases hnormal

theorem get?_components_normalise (h : isLegacy document = true)
    (hnormal : (normalise document).outcome = .ok normal) :
    ∃ components, (document.get? "components").getD (.map []) = .map components ∧
      normal.get? "components" = some (adoptedComponents document components) := by
  obtain ⟨components, hcomponents, rfl⟩ := exists_components_of_normalise h hnormal
  refine ⟨components, hcomponents, ?_⟩
  rw [get?_convertPaths_of_ne (by decide), Keyed.get?_putText, if_pos rfl]

theorem get?_normalise_of_ne {name : String} (h : isLegacy document = true)
    (hnormal : (normalise document).outcome = .ok normal) (hpaths : name ≠ "paths")
    (hcomponents : name ≠ "components") : normal.get? name = document.get? name := by
  obtain ⟨components, -, rfl⟩ := exists_components_of_normalise h hnormal
  rw [get?_convertPaths_of_ne hpaths, Keyed.get?_putText, if_neg hcomponents]

theorem operations_normalise (h : isLegacy document = true)
    (hnormal : (normalise document).outcome = .ok normal) :
    operations (.map normal) = (operations (.map document)).map Operation.converted := by
  obtain ⟨components, -, rfl⟩ := exists_components_of_normalise h hnormal
  have hpaths : paths (.map (document.putText "components"
      (adoptedComponents document components))) = paths (.map document) := by
    have hget : (document.putText "components" (adoptedComponents document components)).get?
        "paths" = document.get? "paths" := by
      rw [Keyed.get?_putText, if_neg (by decide)]
    unfold paths Value.get?
    simp only [Value.map?, Option.bind_some, hget]
  rw [operations, operations, paths_convertPaths, hpaths, List.flatMap_map, List.map_flatMap]
  simp only [operationsOfItem_convertItem]

/-! ## Documents that state the same components -/

section Alike

variable {other otherNormal : Entries} (hlegacy : isLegacy document = true)
  (hother : isLegacy other = true)
  (hcomponents : other.get? "components" = document.get? "components")

include hlegacy hother hcomponents

/-- Either both documents are brought into the new layout, or both are refused for their
components. -/
theorem normalise_cases :
    (∃ normal otherNormal, (normalise document).outcome = .ok normal ∧
        (normalise other).outcome = .ok otherNormal) ∨
      ∃ failure, (normalise document).outcome = .error failure ∧
        (normalise other).outcome = .error failure := by
  rw [outcome_normalise hlegacy, outcome_normalise hother, hcomponents]
  cases (document.get? "components").getD (.map []) with
  | map components => exact .inl ⟨_, _, rfl, rfl⟩
  | _ => exact .inr ⟨_, rfl, rfl⟩

theorem get?_components_eq_of_normalise
    (hdefinitions : other.get? "definitions" = document.get? "definitions")
    (hnormal : (normalise document).outcome = .ok normal)
    (hotherNormal : (normalise other).outcome = .ok otherNormal) :
    otherNormal.get? "components" = normal.get? "components" := by
  obtain ⟨components, hstated, hget⟩ := get?_components_normalise hlegacy hnormal
  obtain ⟨others, hotherStated, hotherGet⟩ := get?_components_normalise hother hotherNormal
  rw [hcomponents, hstated, Value.map.injEq] at hotherStated
  rw [hget, hotherGet, adoptedComponents, adoptedComponents, hotherStated, hdefinitions]

end Alike

theorem componentNodes_eq_of_get?_eq {left right : Entries}
    (hcomponents : left.get? "components" = right.get? "components")
    (hdefinitions : left.get? "definitions" = right.get? "definitions") :
    componentNodes (.map left) = componentNodes (.map right) := by
  unfold componentNodes Value.get? Value.map?
  simp only [Option.bind_some, hcomponents, hdefinitions]

end ApiCompiler.Document
