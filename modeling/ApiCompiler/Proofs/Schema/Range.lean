import ApiCompiler.Proofs.Model.Reading
import ApiCompiler.Proofs.Schema.Reading
import Mathlib.Algebra.Order.Ring.Unbundled.Rat

/-!
# Ranges of numbers

A node states the range of a number in one of two notations, or in a mixture of both. In the first
a flag makes the bound beside it strict, in the second a strict bound is a number of its own. The
resolved schema has one bound for each of the four kinds, and its annotation an argument for each
bound. All three admit the same rational numbers.
-/

namespace ApiCompiler

open Value (Entries Keyed)

/-! ## Amounts -/

/-- The rational number that a finite number is; the others count as zero. -/
def Binary64.amount (x : Binary64) : ℚ :=
  (x.units?.getD 0 : ℚ) / (unitsPerOne : ℚ)

/-- The rational number that a finite bound is. -/
def Number.amount : Number → ℚ
  | .int n => n
  | .float x => x.amount

example : (Number.float (.ofDecimal true 25 (-1))).amount = -5 / 2 := by
  decide +kernel

/-! ## What a range admits -/

/-- Whether the amounts of a bound and of its exclusive twin are as they have to be. Only numbers
count; where the twin is true it makes the bound strict, and where it is a number it is a strict
bound itself. -/
structure IsWithin (weak strict : ℚ → Prop) (bound exclusive : Option Value) : Prop where
  weak (n : Number) : bound = some n.toValue → weak n.amount
  strict_of_flag (n : Number) :
    bound = some n.toValue → exclusive = some (.bool true) → strict n.amount
  strict (n : Number) : exclusive = some n.toValue → strict n.amount

/-- Whether a number is in the range that a node states. -/
structure Schema.Meets (node : Entries) (x : ℚ) : Prop where
  low : IsWithin (· ≤ x) (· < x) (node.get? "minimum") (node.get? "exclusiveMinimum")
  high : IsWithin (x ≤ ·) (x < ·) (node.get? "maximum") (node.get? "exclusiveMaximum")

/-- Whether a number is within bounds. -/
structure Bounds.Admits (bounds : Bounds) (x : ℚ) : Prop where
  minimum : ∀ n ∈ bounds.minimum, n.amount ≤ x
  maximum : ∀ n ∈ bounds.maximum, x ≤ n.amount
  exclusiveMinimum : ∀ n ∈ bounds.exclusiveMinimum, n.amount < x
  exclusiveMaximum : ∀ n ∈ bounds.exclusiveMaximum, x < n.amount

/-- The bounds of a schema; a schema of another kind has none. -/
def Schema.range : Schema → Bounds
  | .number _ _ bounds => bounds
  | _ => {}

/-- Whether a number satisfies a constraint. A constraint of a text asks nothing of it. -/
def Constraint.Admits (x : ℚ) : Constraint → Prop
  | ⟨"ge", .number n⟩ => n.amount ≤ x
  | ⟨"le", .number n⟩ => x ≤ n.amount
  | ⟨"gt", .number n⟩ => n.amount < x
  | ⟨"lt", .number n⟩ => x < n.amount
  | _ => True

/-- The arguments in an annotation, which may admit the absent value too. -/
def TypeExpr.arguments : TypeExpr → List Constraint
  | constrained _ constraints => constraints
  | optional inner => inner.arguments
  | _ => []

/-! ## From a node to bounds -/

section Pair

variable {weak strict : ℚ → Prop} {bound exclusive : Option Value}
  {pair : Option Number × Option Number}

/-- A number is within the keywords of one side where it is within the bounds they state. -/
theorem IsBoundPair.isWithin_iff (h : IsBoundPair bound exclusive pair)
    (himp : ∀ a, strict a → weak a) :
    IsWithin weak strict bound exclusive ↔
      (∀ n ∈ pair.1, weak n.amount) ∧ ∀ n ∈ pair.2, strict n.amount := by
  constructor
  · intro hwithin
    refine ⟨fun n hn ↦ ?_, fun n hn ↦ ?_⟩
    · exact hwithin.weak n ((h.inclusive n).mp hn).1
    · rcases (h.exclusive n).mp hn with hnumber | ⟨hflag, hbound⟩
      · exact hwithin.strict n hnumber
      · exact hwithin.strict_of_flag n hbound hflag
  · rintro ⟨hweak, hstrict⟩
    have hflagged (n : Number) (hbound : bound = some n.toValue)
        (hflag : exclusive = some (.bool true)) : strict n.amount :=
      hstrict n ((h.exclusive n).mpr (.inr ⟨hflag, hbound⟩))
    refine ⟨fun n hbound ↦ ?_, hflagged, fun n hnumber ↦ ?_⟩
    · by_cases hflag : exclusive = some (.bool true)
      · exact himp _ (hflagged n hbound hflag)
      · exact hweak n ((h.inclusive n).mpr ⟨hbound, hflag⟩)
    · exact hstrict n ((h.exclusive n).mpr (.inl hnumber))

/-- The bounds of one side are numbers that the keywords state. -/
theorem IsBoundPair.forall_mem (h : IsBoundPair bound exclusive pair) {p : Number → Prop}
    (hbound : ∀ n : Number, bound = some n.toValue → p n)
    (hexclusive : ∀ n : Number, exclusive = some n.toValue → p n) :
    (∀ n ∈ pair.1, p n) ∧ ∀ n ∈ pair.2, p n := by
  refine ⟨fun n hn ↦ hbound n ((h.inclusive n).mp hn).1, fun n hn ↦ ?_⟩
  rcases (h.exclusive n).mp hn with hnumber | ⟨-, hflagged⟩
  · exact hexclusive n hnumber
  · exact hbound n hflagged

end Pair

theorem Bounds.IsStatedBy.meets_iff {node : Entries} {bounds : Bounds}
    (h : bounds.IsStatedBy node) (x : ℚ) : Schema.Meets node x ↔ bounds.Admits x := by
  have hlow : IsWithin (· ≤ x) (· < x) _ _ ↔ _ := h.low.isWithin_iff fun _ ↦ le_of_lt
  have hhigh : IsWithin (x ≤ ·) (x < ·) _ _ ↔ _ := h.high.isWithin_iff fun _ ↦ le_of_lt
  constructor
  · rintro ⟨hmin, hmax⟩
    obtain ⟨hminimum, hexclusiveMinimum⟩ := hlow.mp hmin
    obtain ⟨hmaximum, hexclusiveMaximum⟩ := hhigh.mp hmax
    exact ⟨hminimum, hmaximum, hexclusiveMinimum, hexclusiveMaximum⟩
  · intro hadmits
    exact ⟨hlow.mpr ⟨hadmits.minimum, hadmits.exclusiveMinimum⟩,
      hhigh.mpr ⟨hadmits.maximum, hadmits.exclusiveMaximum⟩⟩

/-! ## From bounds to an annotation -/

theorem forall_mem_boundConstraint {keyword : String} {x : ℚ} {p : Number → Prop}
    (h : ∀ n, Constraint.Admits x ⟨keyword, .number n⟩ ↔ p n) (bound : Option Number) :
    (∀ c ∈ boundConstraint keyword bound, c.Admits x) ↔ ∀ n ∈ bound, p n := by
  cases bound with
  | none => simp [boundConstraint]
  | some n => simp [boundConstraint, h]

theorem Bounds.admits_iff_constraints (b : Bounds) (x : ℚ) :
    b.Admits x ↔ ∀ c ∈ b.constraints, c.Admits x := by
  simp only [constraints, List.forall_mem_append]
  rw [forall_mem_boundConstraint (fun _ ↦ Iff.rfl), forall_mem_boundConstraint (fun _ ↦ Iff.rfl),
    forall_mem_boundConstraint (fun _ ↦ Iff.rfl), forall_mem_boundConstraint (fun _ ↦ Iff.rfl)]
  constructor
  · rintro ⟨hmin, hmax, hexclusiveMin, hexclusiveMax⟩
    exact ⟨⟨⟨hmin, hmax⟩, hexclusiveMin⟩, hexclusiveMax⟩
  · rintro ⟨⟨⟨hmin, hmax⟩, hexclusiveMin⟩, hexclusiveMax⟩
    exact ⟨hmin, hmax, hexclusiveMin, hexclusiveMax⟩

theorem Bounds.forall_mem_scalars {b : Bounds} {p : Scalar → Prop} :
    (∀ s ∈ b.scalars, p s) ↔
      ∀ bound ∈ [b.minimum, b.maximum, b.exclusiveMinimum, b.exclusiveMaximum], ∀ n ∈ bound,
        p (.number n) := by
  rw [scalars, List.forall_mem_flatMap]
  simp [boundScalars]

theorem Bounds.isWritable_iff {b : Bounds} :
    b.isWritable = true ↔ ∀ s ∈ b.scalars, s.isWritable = true := by
  rw [forall_mem_scalars]
  simp [isWritable, Scalar.isWritable, Option.all_eq_true]

namespace TypeExpr

theorem arguments_orNoneIf (condition : Bool) (a : TypeExpr) :
    (a.orNoneIf condition).arguments = a.arguments := by
  unfold orNoneIf orNone
  split_ifs <;> rfl

theorem arguments_withConstraints {base : TypeExpr} (h : base.arguments = [])
    (constraints : List Constraint) :
    (base.withConstraints constraints).arguments = constraints := by
  unfold withConstraints
  split
  · next hnil => rw [h, List.isEmpty_iff.mp hnil]
  · rfl

end TypeExpr

/-- An annotation of a number is read back from its text, with arguments that admit what the bounds
admit and with literals that mean their values. -/
theorem Bounds.exists_parse?_text {b : Bounds} (hfinite : ∀ s ∈ b.scalars, s.isFinite = true)
    (hwritable : b.isWritable = true) (nullable integer : Bool) :
    let base : TypeExpr := if integer then .integer else .float
    ∃ type, TypeExpr.parse? ((base.withConstraints b.constraints).orNoneIf nullable).text =
        some type ∧
      (∀ c ∈ type.arguments, Scalar.evaluate? c.value.literal = some c.value) ∧
        ∀ x, b.Admits x ↔ ∀ c ∈ type.arguments, c.Admits x := by
  intro base
  let type := (base.withConstraints b.constraints).orNoneIf nullable
  have hbase : base.arguments = [] ∧ base.scalars = [] := by
    cases integer <;> exact ⟨rfl, rfl⟩
  have harguments : type.arguments = b.constraints := by
    rw [TypeExpr.arguments_orNoneIf, TypeExpr.arguments_withConstraints hbase.1]
  have hscalars : type.scalars = b.scalars := by
    rw [TypeExpr.scalars_orNoneIf, TypeExpr.scalars_withConstraints, hbase.2, List.nil_append,
      b.map_value_constraints]
  have hshape : type.HasShape TypeExpr.IsWord := (b.hasShape integer).orNoneIf nullable
  refine ⟨type, hshape.parse?_text (hscalars ▸ hfinite), fun c hc ↦ ?_, fun x ↦ ?_⟩
  · have hvalue : c.value ∈ b.scalars := by
      rw [harguments] at hc
      rw [← b.map_value_constraints]
      exact List.mem_map_of_mem hc
    rw [Scalar.evaluate?_literal_iff]
    exact ⟨hfinite _ hvalue, isWritable_iff.mp hwritable _ hvalue⟩
  · rw [harguments]
    exact b.admits_iff_constraints x

/-! ## Nodes of numbers -/

namespace Schema

/-- The keywords that state a range. -/
def rangeKeywords : List String :=
  ["minimum", "maximum", "exclusiveMinimum", "exclusiveMaximum"]

/-- A mapping that declares the type of a number and is neither a reference nor a list of values,
with finite bounds. -/
structure IsNumberNode (node : Entries) (integer : Bool) : Prop where
  declaredType_eq : declaredType node = some (if integer then "integer" else "number")
  no_reference : node.get? "$ref" = none
  no_enumeration : node.get? "enum" = none
  isFinite : ∀ keyword ∈ rangeKeywords,
    ((node.get? keyword).bind number?).all Number.isFinite = true

/-- A schema that admits the numbers its node does, and so do the arguments in each of its
annotations, as far as it can be written. -/
structure KeepsRange (node : Entries) (schema : Schema) : Prop where
  admits_iff (x : ℚ) : Meets node x ↔ schema.range.Admits x
  exists_parse? (h : schema.isWritable = true) (components : ComponentNames) (inModel : Bool)
    (hint : String) (scope : ModelScope) :
    ∃ type,
      TypeExpr.parse? (schema.render components inModel hint scope).1.text = some type ∧
        (∀ c ∈ type.arguments, Scalar.evaluate? c.value.literal = some c.value) ∧
          ∀ x, schema.range.Admits x ↔ ∀ c ∈ type.arguments, c.Admits x

variable {node : Entries} {integer : Bool}

theorem IsNumberNode.form_eq (h : IsNumberNode node integer)
    (hproperties : node.has "properties" = false) : form node = .plain := by
  rw [form, h.no_reference, h.no_enumeration, h.declaredType_eq, hproperties]
  cases integer <;> rfl

theorem IsNumberNode.isFinite_bounds (h : IsNumberNode node integer) :
    ∀ s ∈ (bounds node).scalars, s.isFinite = true := by
  have hstated := bounds_isStatedBy node
  have hkeyword {keyword : String} (hmem : keyword ∈ rangeKeywords) (n : Number)
      (hn : node.get? keyword = some n.toValue) : n.isFinite = true := by
    have hfinite := h.isFinite keyword hmem
    rwa [hn, Option.bind_some, number?_eq_some_iff.mpr rfl, Option.all_some] at hfinite
  have hlow := hstated.low.forall_mem (hkeyword (by decide)) (hkeyword (by decide))
  have hhigh := hstated.high.forall_mem (hkeyword (by decide)) (hkeyword (by decide))
  rw [Bounds.forall_mem_scalars]
  simp only [List.forall_mem_cons]
  exact ⟨hlow.1, hhigh.1, hlow.2, hhigh.2, nofun⟩

/-- A number node without properties resolves to a number, whatever the known names are, with bounds
that keep the range of the node, as do the arguments in all annotations of it. -/
theorem resolve_keepsRange (h : IsNumberNode node integer)
    (hproperties : node.has "properties" = false) (known : Option (List String)) :
    ∃ bounds, resolve known (.map node) = pure (.number (admitsNull node) integer bounds) ∧
      KeepsRange node (.number (admitsNull node) integer bounds) := by
  refine ⟨bounds node, ?_, ?_, ?_⟩
  · rw [resolve_map, h.form_eq hproperties, h.declaredType_eq]
    cases integer <;> rfl
  · exact (bounds_isStatedBy node).meets_iff
  · intro hwritable components inModel hint scope
    rw [isWritable] at hwritable
    rw [render]
    exact Bounds.exists_parse?_text h.isFinite_bounds hwritable _ integer

/-- A range with a flag below and a number of its own above, next to a truth value that counts for
nothing. -/
def mixedRange : Entries :=
  [(.text "type", .list [.text "null", .text "number"]), (.text "minimum", .float (.ofInt 1)),
    (.text "exclusiveMinimum", .bool true), (.text "maximum", .bool true),
    (.text "exclusiveMaximum", .int 3)]

theorem mixedRange_keepsRange :
    IsNumberNode mixedRange false ∧ mixedRange.has "properties" = false ∧
      ∃ bounds, resolve none (.map mixedRange) = pure (.number true false bounds) ∧
        KeepsRange mixedRange (.number true false bounds) := by
  have hnode : IsNumberNode mixedRange false := ⟨rfl, rfl, rfl, by decide +kernel⟩
  exact ⟨hnode, rfl, resolve_keepsRange hnode rfl none⟩

/-- A number with properties, which make it an object. -/
def shapedNumber : Entries :=
  [(.text "type", .text "number"), (.text "minimum", .int 5), (.text "properties", .map [])]

/-- An integer with a bound of too many digits. -/
def longInteger : Entries :=
  [(.text "type", .text "integer"), (.text "minimum", .int Text.tooLong)]

/-- A number with properties resolves to an object, which admits what is out of the range, and a
bound with too many digits cannot be written. -/
theorem not_keepsRange :
    (IsNumberNode shapedNumber false ∧ ∃ schema, resolve none (.map shapedNumber) = pure schema ∧
      ¬Meets shapedNumber 0 ∧ schema.range.Admits 0) ∧
      IsNumberNode longInteger true ∧ ∃ schema, resolve none (.map longInteger) = pure schema ∧
        schema.isWritable = false := by
  constructor
  · refine ⟨⟨rfl, rfl, rfl, by decide⟩, .object false [], rfl, ?_, ?_⟩
    · intro hmeets
      have hfive : (5 : ℚ) ≤ 0 := hmeets.low.weak (.int 5) rfl
      exact absurd hfive (by decide)
    · exact ⟨nofun, nofun, nofun, nofun⟩
  · refine ⟨⟨rfl, rfl, rfl, by decide⟩, .number false true (bounds longInteger), rfl, ?_⟩
    decide +kernel

end Schema

end ApiCompiler
