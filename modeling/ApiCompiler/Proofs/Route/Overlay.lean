import ApiCompiler.Proofs.Route.Readable

/-!
# The declaration that counts

Of the parameters that a path item and its operation declare with one name and one location, the
last one counts: the route has its schema for the path or the query parameter of this name.
-/

namespace ApiCompiler

theorem Value.text_equals_iff {s : String} {v : Value} :
    (Value.text s).equals v = true ↔ v = .text s := by
  cases v with
  | text other => simpa [equals, equalsAtom] using eq_comm
  | _ => simp [equals, equalsAtom, integer?]

namespace Route

open Value (Entries Keyed)

variable {document path : Value} {known : Option (List String)} {method : String}
  {operation item : Entries} {name location : String}

/-! ## Collected parameters -/

/-- The parameter that an operation and its path item declare last with a name and a location. -/
def lastDeclared? (document : Value) (operation item : Entries) (name location : String) :
    Option Parameter :=
  (declared document (parameterList item ++ parameterList operation)).reverse.find? fun p ↦
    p.isAt name (.text location)

theorem isAt_text_iff {p : Parameter} :
    p.isAt name (.text location) = true ↔ p.name = name ∧ p.location = .text location := by
  rw [Parameter.isAt, Bool.and_eq_true, beq_iff_eq, Value.equals_text_iff]

/-- A parameter in the place of another one is at the same textual locations. -/
theorem location_eq_text_iff_of_isAt {p q : Parameter} (h : q.isAt p.name p.location = true)
    (location : String) : q.location = .text location ↔ p.location = .text location := by
  rw [Parameter.isAt, Bool.and_eq_true] at h
  constructor <;> intro heq
  · exact Value.text_equals_iff.mp (heq ▸ h.2)
  · exact Value.equals_text_iff.mp (heq ▸ h.2)

theorem find?_putParameter (parameters : List Parameter) (p : Parameter) :
    (putParameter parameters p).find? (fun q ↦ q.isAt name (.text location)) =
      if p.isAt name (.text location) then some p
      else parameters.find? fun q ↦ q.isAt name (.text location) := by
  induction parameters with
  | nil =>
    rw [putParameter, List.find?_cons, List.find?_nil]
    cases p.isAt name (.text location) <;> rfl
  | cons q rest ih =>
    rw [putParameter]
    cases hplace : q.isAt p.name p.location with
    | true =>
      have hlocation := location_eq_text_iff_of_isAt hplace location
      rw [Parameter.isAt, Bool.and_eq_true, beq_iff_eq] at hplace
      by_cases hat : p.name = name ∧ p.location = .text location
      · have hmoved : { p with location := q.location } = p := by
          rw [hlocation.mpr hat.2, ← hat.2]
        rw [if_pos rfl, hmoved, if_pos (isAt_text_iff.mpr hat), List.find?_cons,
          isAt_text_iff.mpr hat]
      · have hmoved : ({ p with location := q.location } : Parameter).isAt name
            (.text location) = false := by
          rw [← Bool.not_eq_true, isAt_text_iff, hlocation]
          exact hat
        have hq : q.isAt name (.text location) = false := by
          rw [← Bool.not_eq_true, isAt_text_iff, hlocation, hplace.1]
          exact hat
        rw [if_pos rfl, if_neg (isAt_text_iff.not.mpr hat), List.find?_cons, List.find?_cons,
          hmoved, hq]
    | false =>
      rw [if_neg Bool.false_ne_true, List.find?_cons, List.find?_cons, ih]
      cases hq : q.isAt name (.text location) with
      | false => rfl
      | true =>
        by_cases hat : p.isAt name (.text location) = true
        · rw [isAt_text_iff] at hat hq
          have hsame : q.isAt p.name p.location = true := by
            rw [hat.1, hat.2, isAt_text_iff]
            exact hq
          rw [hplace] at hsame
          cases hsame
        · exact (if_neg hat).symm

theorem find?_foldl_putParameter (parameters known : List Parameter) :
    (parameters.foldl putParameter known).find? (fun q ↦ q.isAt name (.text location)) =
      (parameters.reverse.find? fun q ↦ q.isAt name (.text location)).or
        (known.find? fun q ↦ q.isAt name (.text location)) := by
  induction parameters generalizing known with
  | nil => rfl
  | cons p rest ih =>
    rw [List.foldl_cons, ih, find?_putParameter, List.reverse_cons, List.find?_append,
      List.find?_singleton, Option.or_assoc]
    cases p.isAt name (.text location) <;> rfl

/-- What a collection of parameters ends with: they are put in their places one after the other,
unless one of them has a location that cannot be a key. -/
def collected (declared known : List Parameter) : Except Failure (List Parameter) :=
  match declared.find? fun p ↦ !p.location.isHashable with
  | some p => .error (.unhashable p.location)
  | none => .ok (declared.foldl putParameter known)

theorem outcome_collectFrom (document : Value) (known : List Parameter) (nodes : List Value) :
    (collectFrom document known nodes).outcome = collected (declared document nodes) known := by
  induction nodes generalizing known with
  | nil => rfl
  | cons node rest ih =>
    rw [collectFrom, Report.outcome_bind_of_ok (Document.outcome_deref document node), declared,
      List.filterMap_cons]
    cases hparameter : parameter? (Document.followed document node) with
    | none => exact ih known
    | some p =>
      simp only [collected, List.find?_cons, List.foldl_cons]
      cases hhashable : p.location.isHashable with
      | true => exact ih (putParameter known p)
      | false => rfl

theorem outcome_collectParameters (document : Value) (operation item : Entries) :
    (collectParameters document operation item).outcome =
      collected (declared document (parameterList item ++ parameterList operation)) [] := by
  rw [collectParameters, Report.outcome_bind, outcome_collectFrom]
  simp only [outcome_collectFrom, collected, declared, List.filterMap_append, List.find?_append,
    List.foldl_append]
  cases List.find? (fun p ↦ !p.location.isHashable)
    (List.filterMap (fun node ↦ parameter? (Document.followed document node))
      (parameterList item)) <;> rfl

theorem find?_of_collectParameters {parameters : List Parameter}
    (h : (collectParameters document operation item).outcome = .ok parameters) :
    parameters.find? (fun p ↦ p.isAt name (.text location)) =
      lastDeclared? document operation item name location := by
  rw [outcome_collectParameters, collected] at h
  split at h
  · cases h
  · rw [Except.ok.injEq] at h
    rw [← h, find?_foldl_putParameter, List.find?_nil, Option.or_none, lastDeclared?]

/-! ## Schemas of parameters -/

theorem find?_of_querySchemas {parameters : List Parameter} {queries : Properties}
    (h : (querySchemas known parameters).outcome = .ok queries) {p : Parameter}
    (hp : parameters.find? (fun q ↦ q.isAt name (.text "query")) = some p) :
    ∃ schema, (Schema.resolve known (querySchemaNode p.node)).outcome = .ok schema ∧
      queries.find? name = some (Schema.flagged p.node "required", schema) := by
  have hfound : (parameters.filter fun q ↦ q.location.equals (.text "query")).find?
      (fun q ↦ q.name == name) = some p := by
    rw [List.find?_filter, ← hp]
    refine congrArg (parameters.find? ·) (funext fun q ↦ ?_)
    rw [Parameter.isAt, Bool.decide_and, Bool.decide_eq_true, Bool.decide_eq_true, Bool.and_comm]
  obtain ⟨⟨required, schema⟩, ⟨-, hrequired, hschema⟩, hfind⟩ :=
    Named.exists_find?_of_forall₂ (fun _ _ hentry ↦ hentry.1) (forall₂_of_querySchemas h) hfound
  exact ⟨schema, hschema, hrequired ▸ hfind⟩

theorem find?_of_pathSchemas {parameters : List Parameter} {names : List String}
    {schemas : Named Schema} (h : (pathSchemas known parameters names).outcome = .ok schemas)
    (hname : name ∈ names) :
    ∃ schema, (pathSchema known name
        ((parameters.find? fun p ↦ p.isAt name (.text "path")).bind fun p ↦
          p.node.get? "schema")).outcome = .ok schema ∧ schemas.find? name = some schema := by
  obtain ⟨other, hfound⟩ : ∃ other, names.find? (fun other ↦ id other == name) = some other :=
    Option.isSome_iff_exists.mp (List.find?_isSome.mpr ⟨name, hname, beq_self_eq_true name⟩)
  obtain rfl : other = name := by simpa using List.find?_some hfound
  obtain ⟨schema, ⟨-, hschema⟩, hfind⟩ :=
    Named.exists_find?_of_forall₂ (fun _ _ hentry ↦ hentry.1) (forall₂_of_pathSchemas h) hfound
  exact ⟨schema, hschema, hfind⟩

/-! ## Routes -/

/-- What a route reads off its operation. -/
structure Reads (document : Value) (known : Option (List String)) (operation item : Entries)
    (route : Route) : Prop where
  exists_parameters : ∃ parameters,
    (collectParameters document operation item).outcome = .ok parameters ∧
      (pathSchemas known parameters (PathTemplate.params route.path)).outcome =
          .ok route.pathParams ∧
        (querySchemas known parameters).outcome = .ok route.queryParams
  body_eq : (bodyOf document known operation).outcome = .ok (route.body, route.bodyRequired)
  response_eq : (responseOf document known operation).outcome = .ok route.response

theorem reads_of_ofOperation {route : Route}
    (h : (ofOperation document known method path operation item).outcome = .ok (some route)) :
    route.Reads document known operation item := by
  obtain ⟨parameters, hread⟩ := exists_isReadFrom h
  exact ⟨⟨parameters, hread.parameters_eq, hread.pathParams_eq, hread.queryParams_eq⟩,
    hread.body_eq, hread.response_eq⟩

end Route

end ApiCompiler
