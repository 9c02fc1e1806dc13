import ApiCompiler.Proofs.Schema.Form

/-!
# What a schema says of its node

A schema that is resolved from a node says nothing that the node does not state. Lengths and bounds
are numbers of the node, a list of values has all texts, numbers and truth values of the node in
their order, an array has a schema of its items, and an object has a property for each one of the
node, required when the node lists its name. This holds of the schemas inside a schema too.
-/

namespace ApiCompiler

open Value (Entries Keyed)

/-! ## Statements of a node -/

/-- A value that can be listed: a text, a truth value or a number. -/
def Value.isListable : Value → Bool
  | .text _ => true
  | .bool _ => true
  | .int _ => true
  | .float _ => true
  | _ => false

/-- The values that a node lists as required. -/
def Schema.listedAsRequired (node : Entries) : List Value :=
  match node.get? "required" with
  | some (.list names) => names
  | _ => []

/-- Limits that a node states: its lengths, which are integers from zero on, and its pattern, unless
that is dropped. -/
structure StringLimits.IsStatedBy (node : Entries) (limits : StringLimits) : Prop where
  minLength (n : Nat) : limits.minLength = some n ↔ node.get? "minLength" = some (.int n)
  maxLength (n : Nat) : limits.maxLength = some n ↔ node.get? "maxLength" = some (.int n)
  pattern (s : String) : limits.pattern = some s → node.get? "pattern" = some (.text s)

/-- A pair of bounds that two keywords state. A bound is a number; it is strict when it stands under
the second keyword or when true stands there. -/
structure IsBoundPair (bound exclusive : Option Value) (pair : Option Number × Option Number) :
    Prop where
  inclusive (n : Number) :
    pair.1 = some n ↔ bound = some n.toValue ∧ exclusive ≠ some (.bool true)
  exclusive (n : Number) :
    pair.2 = some n ↔
      exclusive = some n.toValue ∨ exclusive = some (.bool true) ∧ bound = some n.toValue

/-- Bounds that a node states. -/
structure Bounds.IsStatedBy (node : Entries) (bounds : Bounds) : Prop where
  low : IsBoundPair (node.get? "minimum") (node.get? "exclusiveMinimum")
    (bounds.minimum, bounds.exclusiveMinimum)
  high : IsBoundPair (node.get? "maximum") (node.get? "exclusiveMaximum")
    (bounds.maximum, bounds.exclusiveMaximum)

namespace Schema

mutual
/-- A schema that says of a value what the value states, at every depth. Of a value that is no
mapping only the unknown schema says nothing. -/
def IsReadingOf : Schema → Value → Prop
  | .string _ limits, .map node =>
    declaredType node = some "string" ∧ limits.IsStatedBy node
  | .number _ integer bounds, .map node =>
    declaredType node = some (if integer then "integer" else "number") ∧ bounds.IsStatedBy node
  | .boolean _, .map node => declaredType node = some "boolean"
  | .enumeration _ values, .map node =>
    values ≠ [] ∧ ∃ listed, Keyed.get? node "enum" = some (.list listed) ∧
      values.map Scalar.toValue = listed.filter Value.isListable
  | .array _ items, .map node => items.IsReadingOf (itemsOf node)
  | .object _ properties, .map node =>
    AreReadingsOf (listedAsRequired node) (propertiesOf node) properties ∧
      ((∀ entry ∈ propertiesOf node, ∃ name, entry.1 = .text name) →
        ((propertiesOf node).map Prod.fst).Nodup →
          properties.map (fun property ↦ Value.text property.1) = (propertiesOf node).map Prod.fst)
  | .ref _ name, .map node =>
    ∃ reference, Keyed.get? node "$ref" = some (.text reference) ∧
      name = Pointer.componentName reference
  | .unknown _, _ => True
  | _, _ => False
termination_by structural schema => schema
/-- Properties each of which is one of a node's: with its name, required when the name is listed,
and with a schema that says of it what it states. -/
def AreReadingsOf (required : List Value) (entries : Entries) :
    List (String × Bool × Schema) → Prop
  | [] => True
  | (name, isRequired, schema) :: rest =>
    (∃ entry ∈ entries, name = entry.1.display ∧
      (isRequired = true ↔ ∃ text, entry.1 = .text text ∧ .text text ∈ required) ∧
      schema.IsReadingOf entry.2) ∧ AreReadingsOf required entries rest
termination_by structural properties => properties
end

theorem areReadingsOf_iff {required : List Value} {entries : Entries}
    {properties : List (String × Bool × Schema)} :
    AreReadingsOf required entries properties ↔ ∀ property ∈ properties, ∃ entry ∈ entries,
      property.1 = entry.1.display ∧
        (property.2.1 = true ↔ ∃ text, entry.1 = .text text ∧ .text text ∈ required) ∧
        property.2.2.IsReadingOf entry.2 := by
  induction properties with
  | nil => simp [AreReadingsOf]
  | cons property rest ih => rw [AreReadingsOf, List.forall_mem_cons, ih]

/-! ## Limits and bounds -/

theorem number?_eq_some_iff {v : Value} {n : Number} : number? v = some n ↔ v = n.toValue := by
  cases v <;> cases n <;> simp [number?, Number.toValue]

theorem length?_eq_some_iff {v : Value} {n : Nat} : length? v = some n ↔ v = .int n := by
  cases v with
  | int m =>
    simp only [length?, Value.int.injEq]
    split
    · simp only [Option.some.injEq]
      omega
    · simp only [reduceCtorEq, false_iff]
      omega
  | _ => simp [length?]

theorem isBoundPair_boundPair (bound exclusive : Option Value) :
    IsBoundPair bound exclusive (boundPair bound exclusive) := by
  have hinclusive (n : Number) : bound.bind number? = some n ↔ bound = some n.toValue := by
    simp [Option.bind_eq_some_iff, number?_eq_some_iff]
  have htrue (n : Number) : n.toValue ≠ .bool true := by cases n <;> simp [Number.toValue]
  unfold boundPair
  split
  · constructor
    · simp
    · intro n
      simp [hinclusive, (htrue n).symm]
  · next v hv =>
    have hne : v ≠ .bool true := fun h ↦ hv (by rw [h])
    constructor
    · intro n
      simp [hinclusive, hne]
    · intro n
      simp [number?_eq_some_iff, hne]
  · constructor
    · intro n
      simp [hinclusive]
    · simp

theorem bounds_isStatedBy (node : Entries) : (bounds node).IsStatedBy node :=
  ⟨isBoundPair_boundPair .., isBoundPair_boundPair ..⟩

theorem eq_of_pattern {node : Entries} {kept : Option String}
    (h : (pattern node).outcome = .ok kept) :
    ∀ s, kept = some s → node.get? "pattern" = some (.text s) := by
  unfold pattern at h
  split at h
  · next s hs =>
    split at h
    · cases h
      rintro _ ⟨⟩
      exact hs
    · obtain ⟨_, _, h⟩ := Report.outcome_bind_eq_ok.mp h
      cases h
      nofun
    · cases h
  · cases h
    nofun

theorem isStatedBy_of_stringLimits {node : Entries} {limits : StringLimits}
    (h : (stringLimits node).outcome = .ok limits) : limits.IsStatedBy node := by
  obtain ⟨kept, hkept, h⟩ := Report.outcome_bind_eq_ok.mp h
  cases h
  constructor
  · intro n
    simp [Option.bind_eq_some_iff, length?_eq_some_iff]
  · intro n
    simp [Option.bind_eq_some_iff, length?_eq_some_iff]
  · exact eq_of_pattern hkept

/-! ## Resolution -/

variable {known : Option (List String)} {node : Entries} {nullable : Bool} {schema : Schema}

theorem isReadingOf_of_ofReference {target : Value} (htarget : node.get? "$ref" = some target)
    (h : (ofReference known nullable target).outcome = .ok schema) :
    schema.IsReadingOf (.map node) := by
  unfold ofReference at h
  split at h
  · split at h
    · cases h
      trivial
    · dsimp only at h
      split at h
      · cases h
        exact ⟨_, htarget, rfl⟩
      · obtain ⟨_, _, h⟩ := Report.outcome_bind_eq_ok.mp h
        cases h
        trivial
  · cases h
    trivial

/-- The values that are kept are those that can be listed. -/
theorem map_toValue_filterMap (listed : List Value) :
    (listed.filterMap scalar?).map Scalar.toValue = listed.filter Value.isListable := by
  induction listed with
  | nil => rfl
  | cons v rest ih =>
    rw [List.filterMap_cons, List.filter_cons]
    cases v <;> simp [scalar?, Value.isListable, Scalar.toValue, Number.toValue, ih]

theorem isReadingOf_ofEnumeration {values : Value} (hvalues : node.get? "enum" = some values) :
    (ofEnumeration nullable values).IsReadingOf (.map node) := by
  unfold ofEnumeration
  split
  · next listed =>
    dsimp only
    split
    · trivial
    · next hscalars =>
      exact ⟨by simpa using hscalars, listed, hvalues, map_toValue_filterMap listed⟩
  · trivial

theorem isReadingOf_of_ofPlain
    (h : (ofPlain (declaredType node) nullable node).outcome = .ok schema) :
    schema.IsReadingOf (.map node) := by
  unfold ofPlain at h
  split at h
  · next hdeclared =>
    obtain ⟨limits, hlimits, h⟩ := Report.outcome_bind_eq_ok.mp h
    cases h
    exact ⟨hdeclared, isStatedBy_of_stringLimits hlimits⟩
  · next hdeclared =>
    cases h
    exact ⟨hdeclared, bounds_isStatedBy node⟩
  · next hdeclared =>
    cases h
    exact ⟨hdeclared, bounds_isStatedBy node⟩
  · next hdeclared =>
    cases h
    exact hdeclared
  · cases h
    trivial

theorem text?_eq_some_iff {v : Value} {s : String} : v.text? = some s ↔ v = .text s := by
  cases v <;> simp [Value.text?]

/-- A property is required when its key is a text that the node lists. -/
theorem isRequired_iff {key : Value} :
    isRequired (requiredNames node) key = true ↔
      ∃ text, key = .text text ∧ .text text ∈ listedAsRequired node := by
  have hnames (text : String) :
      text ∈ requiredNames node ↔ .text text ∈ listedAsRequired node := by
    unfold requiredNames listedAsRequired
    cases node.get? "required" with
    | none => simp
    | some names =>
      cases names with
      | list names =>
        rw [List.mem_filterMap]
        constructor
        · rintro ⟨v, hv, htext⟩
          rwa [← text?_eq_some_iff.mp htext]
        · intro h
          exact ⟨.text text, h, rfl⟩
      | _ => simp
  cases key with
  | text s => simp [isRequired, hnames]
  | _ => simp [isRequired]

/-- Properties with distinct texts as keys keep their names and their order. -/
theorem map_name_ofPairs {required : List String} {entries : Entries}
    {properties : List (String × Bool × Schema)}
    (h : List.Forall₂ (IsPropertyOf known required) entries properties)
    (htexts : ∀ entry ∈ entries, ∃ name, entry.1 = .text name)
    (hnodup : (entries.map Prod.fst).Nodup) :
    (Named.ofPairs properties).map (fun property ↦ Value.text property.1) =
      entries.map Prod.fst := by
  have hkeys : properties.map (fun property ↦ Value.text property.1) = entries.map Prod.fst := by
    induction h with
    | nil => rfl
    | cons hproperty _ ih =>
      obtain ⟨⟨name, hname⟩, hrest⟩ := List.forall_mem_cons.mp htexts
      rw [List.map_cons, List.map_cons, hproperty.name_eq, hname,
        ih hrest (List.nodup_cons.mp hnodup).2]
      rfl
  have hnames : (properties.map Prod.fst).Nodup := by
    rw [← hkeys] at hnodup
    refine .of_map Value.text ?_
    rwa [List.map_map]
  rw [Named.ofPairs_of_nodup hnames, hkeys]

/-- A schema says of the node from which it is resolved what the node states. -/
theorem isReadingOf_of_resolve (node : Value) {schema : Schema}
    (h : (resolve known node).outcome = .ok schema) : schema.IsReadingOf node := by
  induction node using node_induction generalizing schema with
  | other v hv =>
    rw [eq_unknown_of_resolve hv h]
    trivial
  | map node ihItems ihProperties =>
    rw [resolve_map] at h
    cases hform : form node with
    | reference target =>
      rw [hform] at h
      exact isReadingOf_of_ofReference (get?_of_form_eq_reference hform) h
    | enumeration values =>
      rw [hform] at h
      cases h
      exact isReadingOf_ofEnumeration (get?_of_form_eq_enumeration hform)
    | array =>
      rw [hform] at h
      obtain ⟨items, hitems, h⟩ := Report.outcome_bind_eq_ok.mp h
      cases h
      exact ihItems hitems
    | object =>
      rw [hform] at h
      obtain ⟨properties, hproperties, h⟩ := Report.outcome_bind_eq_ok.mp h
      cases h
      have hforall := forall₂_of_resolveEach hproperties
      refine ⟨areReadingsOf_iff.mpr fun property hproperty ↦ ?_, map_name_ofPairs hforall⟩
      obtain ⟨entry, hentry, hof⟩ :=
        exists_mem_of_forall₂ hforall (Named.mem_of_mem_ofPairs hproperty)
      exact ⟨entry, hentry, hof.name_eq, hof.required_eq ▸ isRequired_iff,
        ihProperties entry hentry hof.resolves⟩
    | plain =>
      rw [hform] at h
      exact isReadingOf_of_ofPlain h

end Schema

end ApiCompiler
