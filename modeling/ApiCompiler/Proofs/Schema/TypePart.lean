import ApiCompiler.Document.Normalise
import ApiCompiler.Proofs.Schema.Form

/-!
# What the type part of a node keeps

An inline type becomes a schema of four keywords. The schema says what the whole node says unless
the node states something under another keyword that matters for its type: that null is admitted,
limits of a string, bounds of a number, or properties.
-/

namespace ApiCompiler

open Value (Entries Keyed)

/-- The keywords of a node that make up its inline type. -/
def Document.typePart (node : Entries) : Entries :=
  typeKeys.filterMap fun key ↦ (node.get? key).map fun value ↦ (.text key, value)

theorem Document.get?_typePart (node : Entries) (name : String) :
    (typePart node).get? name = if name ∈ typeKeys then node.get? name else none := by
  have hkeys (keys : List String) :
      Keyed.get? (keys.filterMap fun key ↦ (node.get? key).map fun value ↦
        ((Value.text key, value) : Value × Value)) name =
          if name ∈ keys then node.get? name else none := by
    induction keys with
    | nil => rfl
    | cons key rest ih =>
      rw [List.filterMap_cons]
      cases hvalue : node.get? key with
      | none =>
        simp only [Option.map_none, ih]
        by_cases hname : name = key
        · simp [hname, hvalue]
        · simp [hname]
      | some value =>
        simp only [Option.map_some, Keyed.get?_cons, Keyed.keyIs_text, ih]
        by_cases hname : name = key
        · simp [hname, hvalue]
        · simp [hname, Ne.symm hname]
  exact hkeys typeKeys

namespace Schema

open Document (typePart get?_typePart)

variable {known : Option (List String)} {node : Entries}

/-! ## Readings of the type part -/

theorem declaredType_typePart : declaredType (typePart node) = declaredType node := by
  rw [declaredType, get?_typePart, if_pos (by decide), declaredType]

theorem admitsNull_typePart : admitsNull (typePart node) = typeAdmitsNull node := by
  simp [admitsNull, typeAdmitsNull, flagged, get?_typePart, Document.typeKeys]

theorem isDateTime_typePart : isDateTime (typePart node) = isDateTime node := by
  rw [isDateTime, get?_typePart, if_pos (by decide), isDateTime]

theorem bounds_typePart : bounds (typePart node) = {} := by
  simp [bounds, boundPair, get?_typePart, Document.typeKeys]

theorem stringLimits_typePart :
    stringLimits (typePart node) = pure { dateTime := isDateTime node } := by
  have hpattern : pattern (typePart node) = pure none := by
    rw [pattern, get?_typePart, if_neg (by decide)]
  rw [stringLimits, hpattern, isDateTime_typePart, get?_typePart, get?_typePart,
    if_neg (by decide), if_neg (by decide)]
  rfl

/-- Whether null is one of the values that a node lists. -/
def listsNull (node : Entries) : Bool :=
  match node.get? "enum" with
  | some (.list values) => values.any Value.null.equals
  | _ => false

/-- A node that states nothing besides its type part that its type would have a use for. -/
structure LosesNothing (node : Entries) : Prop where
  null : admitsNull node = true → typeAdmitsNull node = true ∨ listsNull node = true
  no_properties : node.has "enum" = false → declaredType node ≠ some "array" →
    if declaredType node = some "object" then propertiesOf node = []
    else node.has "properties" = false
  no_limits : node.has "enum" = false → declaredType node = some "string" →
    (stringLimits node).outcome = .ok { dateTime := isDateTime node }
  no_bounds : node.has "enum" = false →
    declaredType node = some "number" ∨ declaredType node = some "integer" → bounds node = {}

/-! ## Resolving by keywords -/

/-- How a node resolves that is no reference. -/
theorem resolve_of_has_eq_false (hreference : Keyed.has node "$ref" = false) :
    resolve known (.map node) =
      match node.get? "enum" with
      | some values => pure (ofEnumeration (admitsNull node) values)
      | none =>
        if declaredType node = some "array" then do
          return .array (admitsNull node)
            (← ((node.get? "items").map (resolve known)).getD (pure (.unknown false)))
        else if declaredType node = some "object" ∨ node.has "properties" = true then do
          let properties ← resolveEach known (requiredNames node) (propertiesOf node)
          return .object (admitsNull node) (Named.ofPairs properties)
        else ofPlain (declaredType node) (admitsNull node) node := by
  rw [Keyed.has_eq_isSome, Option.isSome_eq_false_iff, Option.isNone_iff_eq_none] at hreference
  rw [resolve, hreference]
  cases node.get? "enum" with
  | some values => rfl
  | none => simp [resolveItems_eq, resolveProperties_eq]

theorem ofPairs_eq_nil_iff {properties : List (String × Bool × Schema)} :
    Named.ofPairs properties = [] ↔ properties = [] := by
  have hput (entries : Properties) (name : String) (value : Bool × Schema) :
      entries.put name value ≠ [] := by
    cases entries with
    | nil => simp [Named.put]
    | cons entry rest =>
      rw [Named.put]
      split <;> simp
  have hfold (properties : List (String × Bool × Schema)) (entries : Properties)
      (h : entries ≠ []) :
      properties.foldl (fun entries pair ↦ Named.put entries pair.1 pair.2) entries ≠ [] := by
    induction properties generalizing entries with
    | nil => exact h
    | cons property rest ih => exact ih _ (hput entries property.1 property.2)
  cases properties with
  | nil => simp [Named.ofPairs]
  | cons property rest =>
    simpa [Named.ofPairs] using hfold rest _ (hput [] property.1 property.2)

/-- The properties of a node resolve to none exactly when there are none. -/
theorem outcome_object_eq_iff {required : List String} {entries : Entries} {a b : Bool} :
    ((do
      let properties ← resolveEach known required entries
      return .object a (Named.ofPairs properties)) : Report Schema).outcome =
        .ok (.object b []) ↔ a = b ∧ entries = [] := by
  rw [Report.outcome_bind_eq_ok]
  constructor
  · rintro ⟨properties, hproperties, h⟩
    have heq : a = b ∧ properties = [] := by simpa [ofPairs_eq_nil_iff] using h
    refine ⟨heq.1, ?_⟩
    rw [← List.length_eq_zero_iff, (forall₂_of_resolveEach hproperties).length_eq, heq.2]
    rfl
  · rintro ⟨rfl, rfl⟩
    exact ⟨[], rfl, rfl⟩

theorem ofEnumeration_eq_iff (a b : Bool) (values : Value)
    (hvalues : node.get? "enum" = some values) :
    ofEnumeration a values = ofEnumeration b values ↔
      (a || listsNull node) = (b || listsNull node) := by
  rw [listsNull, hvalues]
  cases values with
  | list values =>
    simp only [ofEnumeration]
    split <;> simp
  | _ => simp [ofEnumeration]

theorem null_iff :
    (admitsNull node = true → typeAdmitsNull node = true ∨ listsNull node = true) ↔
      (admitsNull node || listsNull node) = (typeAdmitsNull node || listsNull node) := by
  rw [admitsNull]
  cases typeAdmitsNull node <;> cases listsNull node <;> simp

theorem listsNull_eq_false (h : node.get? "enum" = none) : listsNull node = false := by
  rw [listsNull, h]

theorem outcome_ofPlain_ne_object {declared : Option String} {nullable admits : Bool}
    {properties : Properties} :
    (ofPlain declared nullable node).outcome ≠ .ok (.object admits properties) := by
  intro h
  unfold ofPlain at h
  split at h
  · obtain ⟨_, _, h⟩ := Report.outcome_bind_eq_ok.mp h
    cases h
  all_goals cases h

/-- Without inner schemas, a node reads as its type part when the limits of its type are none. -/
theorem outcome_ofPlain_eq_iff {declared : Option String} {a b : Bool} {schema : Schema}
    (h : (ofPlain declared b (typePart node)).outcome = .ok schema) :
    (ofPlain declared a node).outcome = .ok schema ↔
      a = b ∧
      (declared = some "string" →
        (stringLimits node).outcome = .ok { dateTime := isDateTime node }) ∧
      (declared = some "number" ∨ declared = some "integer" → bounds node = {}) := by
  unfold ofPlain at h ⊢
  split at h
  · rw [stringLimits_typePart] at h
    obtain rfl : string b { dateTime := isDateTime node } = schema := Except.ok.inj h
    rw [Report.outcome_bind_eq_ok]
    constructor
    · rintro ⟨limits, hlimits, h⟩
      obtain ⟨rfl, rfl⟩ : a = b ∧ limits = { dateTime := isDateTime node } := by simpa using h
      simp [hlimits]
    · rintro ⟨rfl, hlimits, -⟩
      exact ⟨_, hlimits rfl, rfl⟩
  · rw [bounds_typePart] at h
    obtain rfl : number b false {} = schema := by simpa using h
    simp
  · rw [bounds_typePart] at h
    obtain rfl : number b true {} = schema := by simpa using h
    simp
  · obtain rfl : boolean b = schema := by simpa using h
    simp
  · rename_i hstring hnumber hinteger _
    obtain rfl : unknown b = schema := by simpa using h
    have hlimited : ¬ (declared = some "number" ∨ declared = some "integer") := by
      rintro (h | h)
      · exact hnumber h
      · exact hinteger h
    simp only [Report.outcome_pure, Except.ok.injEq, unknown.injEq]
    exact ⟨fun heq ↦ ⟨heq, fun h ↦ (hstring h).elim, fun h ↦ (hlimited h).elim⟩, fun h ↦ h.1⟩

/-! ### What is lost, by the type of a node -/

theorem has_enum (h : node.get? "enum" = none) : Keyed.has node "enum" = false := by
  rw [Keyed.has_eq_isSome, h]
  rfl

theorem losesNothing_enum_iff {values : Value} (h : node.get? "enum" = some values) :
    LosesNothing node ↔
      (admitsNull node || listsNull node) = (typeAdmitsNull node || listsNull node) := by
  have hhas : Keyed.has node "enum" = true := by
    rw [Keyed.has_eq_isSome, h]
    rfl
  rw [← null_iff]
  refine ⟨fun hloses ↦ hloses.null, fun hnull ↦ ⟨hnull, ?_, ?_, ?_⟩⟩ <;> simp [hhas]

theorem null_iff_of_eq_none (h : node.get? "enum" = none) :
    (admitsNull node = true → typeAdmitsNull node = true ∨ listsNull node = true) ↔
      admitsNull node = typeAdmitsNull node := by
  rw [null_iff, listsNull_eq_false h, Bool.or_false, Bool.or_false]

theorem losesNothing_array_iff (h : node.get? "enum" = none)
    (harray : declaredType node = some "array") :
    LosesNothing node ↔ admitsNull node = typeAdmitsNull node := by
  rw [← null_iff_of_eq_none h]
  refine ⟨fun hloses ↦ hloses.null, fun hnull ↦ ⟨hnull, ?_, ?_, ?_⟩⟩ <;> simp [harray]

theorem losesNothing_object_iff (h : node.get? "enum" = none)
    (hobject : declaredType node = some "object") :
    LosesNothing node ↔ admitsNull node = typeAdmitsNull node ∧ propertiesOf node = [] := by
  rw [← null_iff_of_eq_none h]
  constructor
  · intro hloses
    refine ⟨hloses.null, ?_⟩
    simpa [hobject] using hloses.no_properties (has_enum h)
  · rintro ⟨hnull, hproperties⟩
    refine ⟨hnull, ?_, ?_, ?_⟩ <;> simp [hobject, hproperties]

theorem losesNothing_plain_iff (h : node.get? "enum" = none)
    (harray : declaredType node ≠ some "array") (hobject : declaredType node ≠ some "object") :
    LosesNothing node ↔ node.has "properties" = false ∧ admitsNull node = typeAdmitsNull node ∧
      (declaredType node = some "string" →
        (stringLimits node).outcome = .ok { dateTime := isDateTime node }) ∧
      (declaredType node = some "number" ∨ declaredType node = some "integer" →
        bounds node = {}) := by
  rw [← null_iff_of_eq_none h]
  constructor
  · intro hloses
    have hproperties := hloses.no_properties (has_enum h) harray
    rw [if_neg hobject] at hproperties
    exact ⟨hproperties, hloses.null, hloses.no_limits (has_enum h), hloses.no_bounds (has_enum h)⟩
  · rintro ⟨hproperties, hnull, hlimits, hbounds⟩
    exact ⟨hnull, fun _ _ ↦ by rwa [if_neg hobject], fun _ ↦ hlimits, fun _ ↦ hbounds⟩

/-- The type part of a node resolves as the node exactly when nothing is lost. -/
theorem outcome_resolve_eq_iff {schema : Schema} (hreference : Keyed.has node "$ref" = false)
    (h : (resolve known (.map (typePart node))).outcome = .ok schema) :
    (resolve known (.map node)).outcome = .ok schema ↔ LosesNothing node := by
  have hpart : Keyed.has (typePart node) "$ref" = false := by
    rw [Keyed.has_eq_isSome, get?_typePart]
    rfl
  have henum : Keyed.get? (typePart node) "enum" = node.get? "enum" := by
    rw [get?_typePart, if_pos (by decide)]
  have hitems : Keyed.get? (typePart node) "items" = node.get? "items" := by
    rw [get?_typePart, if_pos (by decide)]
  have hproperties : Keyed.get? (typePart node) "properties" = none := by
    rw [get?_typePart, if_neg (by decide)]
  rw [resolve_of_has_eq_false hpart, declaredType_typePart, admitsNull_typePart, henum, hitems,
    Keyed.has_eq_isSome, propertiesOf, hproperties] at h
  rw [resolve_of_has_eq_false hreference]
  cases hvalues : node.get? "enum" with
  | some values =>
    rw [hvalues] at h
    obtain rfl : ofEnumeration (typeAdmitsNull node) values = schema := by simpa using h
    rw [losesNothing_enum_iff hvalues, ← ofEnumeration_eq_iff _ _ values hvalues]
    simp
  | none =>
    rw [hvalues] at h
    simp only at h ⊢
    by_cases harray : declaredType node = some "array"
    · rw [if_pos harray, Report.outcome_bind_eq_ok] at h
      obtain ⟨items, hitems, h⟩ := h
      obtain rfl : array (typeAdmitsNull node) items = schema := by simpa using h
      rw [if_pos harray, Report.outcome_bind_of_ok hitems, losesNothing_array_iff hvalues harray]
      simp
    · rw [if_neg harray] at h ⊢
      by_cases hobject : declaredType node = some "object"
      · rw [if_pos (.inl hobject)] at h
        obtain rfl : object (typeAdmitsNull node) [] = schema :=
          Except.ok.inj h
        rw [if_pos (.inl hobject), outcome_object_eq_iff, losesNothing_object_iff hvalues hobject]
      · replace h : (ofPlain (declaredType node) (typeAdmitsNull node) (typePart node)).outcome =
            .ok schema := by simpa [hobject] using h
        rw [losesNothing_plain_iff hvalues harray hobject]
        cases hstated : node.has "properties" with
        | true =>
          rw [if_pos (.inr rfl), Report.outcome_bind_eq_ok]
          constructor
          · rintro ⟨properties, _, heq⟩
            cases heq
            exact absurd h outcome_ofPlain_ne_object
          · rintro ⟨hnone, -⟩
            cases hnone
        | false =>
          rw [if_neg (by simp [hobject]), outcome_ofPlain_eq_iff h]
          simp

end Schema

end ApiCompiler
