import ApiCompiler.Proofs.Route.Overlay

/-!
# The response of a route

The response of a route is that of the first success code that the operation states, references
followed. The preferred response is that of the first success code with JSON content. They differ
only where a code without JSON content stands before a code that has it: the route then has the
unknown response in place of the preferred one.
-/

namespace ApiCompiler.Route

open Value (Entries Keyed)

variable (document : Value) (known : Option (List String)) (operation : Entries)

/-- The responses that an operation states, by their codes. -/
def responsesOf : Entries :=
  ((operation.get? "responses").bind Value.map?).getD []

/-- The JSON schema of the response that is stated for a code. -/
def schemaFor? (code : Value) : Option Value :=
  (Keyed.lookup? (responsesOf operation) code).bind fun response ↦
    jsonSchema? (Document.followed document response)

/-- The JSON schema of the first success code that is stated. -/
def leadingSchema? : Option Value :=
  (successCodes.findSome? (Keyed.lookup? (responsesOf operation))).bind fun response ↦
    jsonSchema? (Document.followed document response)

/-- The schema of the first success code whose response has JSON content; without one it is
unknown. -/
def preferredResponse : Report Schema :=
  match successCodes.findSome? (schemaFor? document operation) with
  | none => pure (.unknown false)
  | some node => Schema.resolve known node

/-- A schema of the first code that is stated is the schema of the first code that has one. -/
theorem findSome?_schemaFor?_of_leading {codes : List Value} {node : Value}
    (h : (codes.findSome? (Keyed.lookup? (responsesOf operation))).bind
      (fun response ↦ jsonSchema? (Document.followed document response)) = some node) :
    codes.findSome? (schemaFor? document operation) = some node := by
  induction codes with
  | nil => cases h
  | cons code rest ih =>
    rw [List.findSome?_cons] at h ⊢
    cases hlookup : Keyed.lookup? (responsesOf operation) code with
    | none =>
      rw [hlookup] at h
      rw [schemaFor?, hlookup]
      exact ih h
    | some response =>
      rw [hlookup] at h
      rw [schemaFor?, hlookup, h]

theorem successResponse_eq :
    successResponse operation =
      (successCodes.findSome? (Keyed.lookup? (responsesOf operation))).getD .null := by
  unfold successResponse responsesOf
  cases operation.get? "responses" with
  | none => rfl
  | some responses => cases responses <;> rfl

theorem outcome_responseOf_eq_leading :
    (responseOf document known operation).outcome =
      match leadingSchema? document operation with
      | none => .ok (.unknown false)
      | some node => (Schema.resolve known node).outcome := by
  rw [responseOf, Report.outcome_bind_of_ok (Document.outcome_deref document _),
    successResponse_eq, leadingSchema?]
  cases successCodes.findSome? (Keyed.lookup? (responsesOf operation)) with
  | none =>
    -- null is no reference and has no content
    have hnull : Document.followed document .null = .null := Document.followed_eq_self rfl
    rw [Option.getD_none, hnull]
    rfl
  | some response =>
    rw [Option.getD_some, Option.bind_some]
    cases jsonSchema? (Document.followed document response) <;> rfl

/-- Of the first success code, an operation takes the preferred response if that code has JSON
content, and the unknown one otherwise. -/
theorem outcome_responseOf :
    (responseOf document known operation).outcome =
      if (leadingSchema? document operation).isSome then
        (preferredResponse document known operation).outcome
      else .ok (.unknown false) := by
  rw [outcome_responseOf_eq_leading]
  cases hleading : leadingSchema? document operation with
  | none => rfl
  | some node =>
    have hpreferred : successCodes.findSome? (schemaFor? document operation) = some node :=
      findSome?_schemaFor?_of_leading document operation hleading
    rw [preferredResponse, hpreferred]
    rfl

/-- The response of a route is the preferred one exactly if the first success code that is stated
has JSON content or the preferred response is the unknown one; otherwise it is the unknown one. -/
theorem response_is_preferred_iff {method : String} {path : Value} {item : Entries} {route : Route}
    (h : (ofOperation document known method path operation item).outcome = .ok (some route)) :
    ((preferredResponse document known operation).outcome = .ok route.response ↔
      (leadingSchema? document operation).isSome ∨
        (preferredResponse document known operation).outcome = .ok (.unknown false)) ∧
      ((leadingSchema? document operation).isNone → route.response = .unknown false) := by
  have hresponse := (reads_of_ofOperation h).response_eq
  rw [outcome_responseOf] at hresponse
  cases hleading : leadingSchema? document operation with
  | none =>
    have hunknown : route.response = .unknown false := by
      rw [hleading] at hresponse
      exact (Except.ok.inj hresponse).symm
    simp [hunknown]
  | some node =>
    rw [hleading] at hresponse
    simpa using hresponse

/-- An operation whose response for 200 has no content, while the one for 201 has. -/
def creation : Entries :=
  [(.text "responses", .map
    [(.text "200", .map [(.text "description", .text "Present")]),
      (.text "201", .map [(.text "content", .map
        [(.text "application/json", .map
          [(.text "schema", .map [(.text "type", .text "string")])])])])])]

theorem response_of_creation_is_unknown :
    ∃ route, (ofOperation .null (some []) "post" (.text "/items") creation []).outcome =
        .ok (some route) ∧
      route.response = .unknown false ∧
      (preferredResponse .null (some []) creation).outcome = .ok (.string false {}) ∧
      (preferredResponse .null (some []) creation).outcome ≠ .ok route.response := by
  have hroute : ∃ found, (ofOperation .null (some []) "post" (.text "/items") creation []).outcome =
      .ok found ∧ found.isSome = true := by
    decide +kernel
  obtain ⟨_, hroute, hsome⟩ := hroute
  obtain ⟨route, rfl⟩ := Option.isSome_iff_exists.mp hsome
  have hpreferred : (preferredResponse .null (some []) creation).outcome =
      .ok (.string false {}) := by
    have hpresent : schemaFor? .null creation (.text "200") = none :=
      congrArg jsonSchema? (Document.followed_eq_self rfl)
    have hcreated : schemaFor? .null creation (.text "201") =
        some (.map [(.text "type", .text "string")]) :=
      congrArg jsonSchema? (Document.followed_eq_self rfl)
    have hinteger : schemaFor? .null creation (.int 200) = none := rfl
    rw [preferredResponse, successCodes, List.findSome?_cons, hpresent, List.findSome?_cons,
      hinteger, List.findSome?_cons, hcreated]
    rfl
  have hleading : leadingSchema? .null creation = none :=
    congrArg jsonSchema? (Document.followed_eq_self rfl)
  have hspec := response_is_preferred_iff .null (some []) creation hroute
  have hunknown : route.response = .unknown false := hspec.2 (by rw [hleading]; rfl)
  refine ⟨route, hroute, hunknown, hpreferred, ?_⟩
  rw [hpreferred, hunknown]
  nofun

end ApiCompiler.Route
