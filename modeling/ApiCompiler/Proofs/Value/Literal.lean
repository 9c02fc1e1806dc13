import ApiCompiler.Json
import ApiCompiler.Model.TypeExpr
import ApiCompiler.Proofs.Binary64
import ApiCompiler.Proofs.Text.Ascii
import ApiCompiler.Proofs.Text.Evaluate
import ApiCompiler.Schema.Writable

/-!
# Literals of scalars

A literal of a scalar is read from left to right: a quote opens a text, the truth values are words,
and anything else is a number, an integer unless it has a fraction or an exponent. Each literal ends
where it shows that it does, so that what follows it in an annotation is read apart from it. A
literal reads back as its scalar with one exception: a number that is not finite is written as a
word that is no literal.
-/

namespace ApiCompiler

open Json (natOfDigits splitFraction splitExponent exponentOf)

/-! ## Reading numbers -/

/-- A number in decimal digits, after its sign, and what follows it. -/
def Number.read? (negative : Bool) (input : List Char) : Option (Number × List Char) :=
  let run := input.takeWhile Char.isDigit
  let whole := if run.head? == some '0' then ['0'] else run
  if whole.isEmpty then none
  else
    let (fraction, rest) := splitFraction (input.drop whole.length)
    let (exponent, rest) := splitExponent rest
    if fraction.isEmpty && exponent.isNone then
      let n : Int := natOfDigits whole
      some (.int (if negative then -n else n), rest)
    else
      some (.float (.ofDecimal negative (natOfDigits (whole ++ fraction))
        (exponentOf exponent - fraction.length)), rest)

/-- A text that no number goes on with. -/
def EndsNumber (rest : List Char) : Prop :=
  ∀ c ∈ rest.head?, c.isDigit = false ∧ c ≠ '.' ∧ c ≠ 'e' ∧ c ≠ 'E'

/-- A number as it is written behind its sign. Only a single digit in front may be zero, and an
exponent has a sign in any case. -/
structure Numeral where
  /-- The digits in front of the point. -/
  whole : List Char
  /-- The digits behind the point; without them there is no point. -/
  fraction : List Char := []
  /-- The sign and the digits of the exponent. -/
  exponent : Option (Bool × List Char) := none
  isDigit_whole : ∀ c ∈ whole, c.isDigit = true
  whole_ne_nil : whole ≠ []
  eq_of_head : whole.head? = some '0' → whole = ['0']
  isDigit_fraction : ∀ c ∈ fraction, c.isDigit = true := by simp
  isDigit_exponent : ∀ e ∈ exponent, e.2 ≠ [] ∧ ∀ c ∈ e.2, c.isDigit = true := by simp

namespace Numeral

/-- A fraction as it is written. -/
def fractionChars (digits : List Char) : List Char :=
  if digits.isEmpty then [] else '.' :: digits

/-- An exponent as it is written. -/
def exponentChars : Option (Bool × List Char) → List Char
  | none => []
  | some (negative, digits) => 'e' :: (if negative then '-' else '+') :: digits

/-- The characters of a numeral. -/
def chars (n : Numeral) : List Char :=
  n.whole ++ (fractionChars n.fraction ++ exponentChars n.exponent)

/-- What a numeral means behind a sign. -/
def value (n : Numeral) (negative : Bool) : Number :=
  if n.fraction.isEmpty && n.exponent.isNone then
    .int (if negative then -(natOfDigits n.whole : Int) else natOfDigits n.whole)
  else
    .float (.ofDecimal negative (natOfDigits (n.whole ++ n.fraction))
      (exponentOf n.exponent - n.fraction.length))

end Numeral

variable {fraction rest : List Char}

theorem takeWhile_append_of_head {p : Char → Bool} {text : List Char}
    (h : ∀ c ∈ text, p c = true) (hrest : ∀ c ∈ rest.head?, p c = false) :
    (text ++ rest).takeWhile p = text ∧ (text ++ rest).dropWhile p = rest := by
  rw [List.takeWhile_append_of_pos h, List.dropWhile_append_of_pos h]
  cases rest with
  | nil => simp
  | cons c rest =>
    have hc := hrest c rfl
    simp [hc]

theorem splitExponent_exponentChars {exponent : Option (Bool × List Char)}
    (h : ∀ e ∈ exponent, e.2 ≠ [] ∧ ∀ c ∈ e.2, c.isDigit = true) (hrest : EndsNumber rest) :
    splitExponent (Numeral.exponentChars exponent ++ rest) = (exponent, rest) := by
  cases exponent with
  | none =>
    rw [Numeral.exponentChars, List.nil_append]
    cases rest with
    | nil => rfl
    | cons c rest =>
      obtain ⟨-, -, hsmall, hlarge⟩ := hrest c rfl
      simp [splitExponent, hsmall, hlarge]
  | some exponent =>
    obtain ⟨negative, digits⟩ := exponent
    obtain ⟨hne, hdigits⟩ := h _ rfl
    obtain ⟨htake, hdrop⟩ := takeWhile_append_of_head hdigits fun c hc ↦ (hrest c hc).1
    cases negative with
    | false => simp [Numeral.exponentChars, splitExponent, htake, hdrop, hne]
    | true => simp [Numeral.exponentChars, splitExponent, htake, hdrop, hne]

theorem splitFraction_fractionChars (h : ∀ c ∈ fraction, c.isDigit = true)
    (hrest : ∀ c ∈ rest.head?, c.isDigit = false ∧ c ≠ '.') :
    splitFraction (Numeral.fractionChars fraction ++ rest) = (fraction, rest) := by
  cases fraction with
  | nil =>
    rw [Numeral.fractionChars, List.isEmpty_nil, if_pos rfl, List.nil_append]
    cases rest with
    | nil => rfl
    | cons c rest =>
      have hc := (hrest c rfl).2
      unfold splitFraction
      split
      · next heq => exact absurd (List.cons_eq_cons.mp heq).1 hc
      · rfl
  | cons d digits =>
    obtain ⟨htake, hdrop⟩ := takeWhile_append_of_head h fun c hc ↦ (hrest c hc).1
    rw [Numeral.fractionChars, if_neg (by simp), List.cons_append, splitFraction]
    simp only [htake, hdrop]
    simp

theorem head?_exponentChars (exponent : Option (Bool × List Char)) (hrest : EndsNumber rest) :
    ∀ c ∈ (Numeral.exponentChars exponent ++ rest).head?, c.isDigit = false ∧ c ≠ '.' := by
  intro c hc
  cases exponent with
  | none =>
    obtain ⟨hdigit, hpoint, -⟩ := hrest c hc
    exact ⟨hdigit, hpoint⟩
  | some exponent =>
    obtain rfl : 'e' = c := Option.some.inj hc
    exact ⟨by decide, by decide⟩

/-- A numeral is read as it is written, whatever follows it. -/
theorem Numeral.read?_chars (n : Numeral) (negative : Bool) (hrest : EndsNumber rest) :
    Number.read? negative (n.chars ++ rest) = some (n.value negative, rest) := by
  have hpoint : ∀ c ∈ (fractionChars n.fraction ++ (exponentChars n.exponent ++ rest)).head?,
      c.isDigit = false := by
    intro c hc
    unfold fractionChars at hc
    split at hc
    · exact (head?_exponentChars n.exponent hrest c hc).1
    · obtain rfl : '.' = c := Option.some.inj hc
      decide
  obtain ⟨hrun, -⟩ := takeWhile_append_of_head n.isDigit_whole hpoint
  have hkept : (if n.whole.head? == some '0' then ['0'] else n.whole) = n.whole := by
    split
    · next hzero => exact (n.eq_of_head (beq_iff_eq.mp hzero)).symm
    · rfl
  have hne : n.whole.isEmpty = false := List.isEmpty_eq_false_iff.mpr n.whole_ne_nil
  rw [chars, List.append_assoc, List.append_assoc]
  simp only [Number.read?, hrun, hkept, hne, List.drop_left, Bool.false_eq_true, if_false,
    splitFraction_fractionChars n.isDigit_fraction (head?_exponentChars n.exponent hrest),
    splitExponent_exponentChars n.isDigit_exponent hrest]
  rw [value]
  split <;> rfl

/-! ## Digits -/

theorem natOfDigits_eq (digits : List Char) :
    natOfDigits digits = Nat.ofDigitChars 10 digits 0 := by
  rw [Nat.ofDigitChars_eq_foldl, natOfDigits]
  congr 1
  funext n c
  rw [Nat.mul_comm]
  rfl

theorem natOfDigits_toDigits (n : Nat) : natOfDigits (Nat.toDigits 10 n) = n := by
  rw [natOfDigits_eq, Nat.ofDigitChars_ten_toDigits]

/-- Zeros in front do not count. -/
theorem natOfDigits_zeros_append (count : Nat) (digits : List Char) :
    natOfDigits (List.replicate count '0' ++ digits) = natOfDigits digits := by
  rw [natOfDigits_eq, natOfDigits_eq, Nat.ofDigitChars_append, Nat.ofDigitChars_replicate_zero,
    Nat.mul_zero]

theorem isDigit_of_mem_toDigits {n : Nat} : ∀ c ∈ Nat.toDigits 10 n, c.isDigit = true :=
  fun _ ↦ Nat.isDigit_of_mem_toDigits (by decide) (by decide)

theorem isDigit_of_mem_zero : ∀ c ∈ ['0'], c.isDigit = true :=
  List.forall_mem_singleton.mpr rfl

/-- Only zero begins with a zero. -/
theorem head?_toDigits_ne {n : Nat} (h : n ≠ 0) : (Nat.toDigits 10 n).head? ≠ some '0' := by
  induction n using Nat.strong_induction_on with
  | _ n ih =>
    rcases Nat.lt_or_ge n 10 with hlt | hge
    · rw [Nat.toDigits_of_lt_base hlt, List.head?_cons]
      simpa using h
    · have hfirst := ih (n / 10) (by omega) (by omega)
      rw [Nat.toDigits_of_base_le (by decide) hge,
        List.head?_append_of_ne_nil _ Nat.toDigits_ne_nil]
      exact hfirst

/-! ## Numerals of numbers -/

/-- A numeral for a number behind a sign. -/
def Number.IsWrittenBy (number : Number) (negative : Bool) (text : List Char) : Prop :=
  ∃ n : Numeral, n.chars = text ∧ n.value negative = number

/-- Digits alone are an integer. -/
theorem Number.int_isWrittenBy (negative : Bool) (k : Nat) :
    (Number.int (if negative then -(k : Int) else k)).IsWrittenBy negative (Nat.toDigits 10 k) := by
  let n : Numeral :=
    { whole := Nat.toDigits 10 k
      isDigit_whole := isDigit_of_mem_toDigits
      whole_ne_nil := Nat.toDigits_ne_nil
      eq_of_head := fun hzero ↦ by
        by_cases h : k = 0
        · rw [h, Nat.toDigits_zero]
        · exact absurd hzero (head?_toDigits_ne h) }
  refine ⟨n, ?_, ?_⟩
  · simp [n, Numeral.chars, Numeral.fractionChars, Numeral.exponentChars]
  · simp [n, Numeral.value, natOfDigits_toDigits]

namespace Binary64

open Json (natOfDigits)

/-- Digits with a fraction are a floating-point number. -/
theorem float_isWrittenBy (negative : Bool) {whole fraction : List Char}
    (hwhole : ∀ c ∈ whole, c.isDigit = true) (hnonempty : whole ≠ [])
    (hhead : whole.head? = some '0' → whole = ['0']) (hfraction : ∀ c ∈ fraction, c.isDigit = true)
    (hne : fraction ≠ []) :
    (Number.float (.ofDecimal negative (natOfDigits (whole ++ fraction))
      (-fraction.length))).IsWrittenBy negative (whole ++ '.' :: fraction) := by
  have hempty : fraction.isEmpty = false := List.isEmpty_eq_false_iff.mpr hne
  refine ⟨⟨whole, fraction, none, hwhole, hnonempty, hhead, hfraction, by simp⟩, ?_, ?_⟩
  · simp [Numeral.chars, Numeral.fractionChars, Numeral.exponentChars, hempty]
  · simp [Numeral.value, hempty, exponentOf]

theorem exponentChars_eq (exponent : Int) :
    ∃ digits, exponentChars exponent =
        Numeral.exponentChars (some (decide (exponent < 0), digits)) ∧
      digits ≠ [] ∧ (∀ c ∈ digits, c.isDigit = true) ∧ natOfDigits digits = exponent.natAbs := by
  have hdigits : ∀ c ∈ digitChars exponent.natAbs, c.isDigit = true := isDigit_of_mem_toDigits
  have hvalue : natOfDigits (digitChars exponent.natAbs) = exponent.natAbs :=
    natOfDigits_toDigits _
  rw [exponentChars]
  by_cases hshort : (digitChars exponent.natAbs).length < 2
  · refine ⟨'0' :: digitChars exponent.natAbs, ?_, List.cons_ne_nil _ _,
      List.forall_mem_cons.mpr ⟨by decide, hdigits⟩,
      (natOfDigits_zeros_append 1 _).trans hvalue⟩
    simp [Numeral.exponentChars, hshort]
  · refine ⟨digitChars exponent.natAbs, ?_, Nat.toDigits_ne_nil, hdigits, hvalue⟩
    simp [Numeral.exponentChars, hshort]

variable {d : Decimal}

/-- A decimal in scientific notation has one digit before the point. -/
theorem scientific_isWrittenBy (negative : Bool) (h : d.digits ≠ 0) :
    (Number.float (.ofDecimal negative d.digits d.exponent)).IsWrittenBy negative
      (scientific d) := by
  have hdigits : ∀ c ∈ digitChars d.digits, c.isDigit = true := isDigit_of_mem_toDigits
  have hvalue : natOfDigits (digitChars d.digits) = d.digits := natOfDigits_toDigits _
  have hhead : (digitChars d.digits).head? ≠ some '0' := head?_toDigits_ne h
  have hcount : digitCount d.digits = (digitChars d.digits).length := digitCount_of_ne_zero h
  cases hchars : digitChars d.digits with
  | nil => exact absurd hchars Nat.toDigits_ne_nil
  | cons first more =>
    rw [hchars] at hdigits hvalue hhead hcount
    obtain ⟨hfirst, hmore⟩ := List.forall_mem_cons.mp hdigits
    obtain ⟨digits, hexponent, hne, hall, hnat⟩ := exponentChars_eq d.scientificExponent
    have hpoint : pointAfterFirst (first :: more) = [first] ++ Numeral.fractionChars more := by
      cases more <;> rfl
    have hscientific : d.scientificExponent = d.exponent + (more.length + 1 : Nat) - 1 := by
      rw [Decimal.scientificExponent, hcount, List.length_cons]
    have hvalueOf : exponentOf (some (decide (d.scientificExponent < 0), digits)) - more.length =
        d.exponent := by
      simp only [exponentOf, hnat, decide_eq_true_iff]
      split <;> omega
    let n : Numeral :=
      { whole := [first]
        fraction := more
        exponent := some (decide (d.scientificExponent < 0), digits)
        isDigit_whole := by simpa using hfirst
        whole_ne_nil := List.cons_ne_nil _ _
        eq_of_head := fun hzero ↦ absurd hzero hhead
        isDigit_fraction := hmore
        isDigit_exponent := by simpa using ⟨hne, hall⟩ }
    refine ⟨n, ?_, ?_⟩
    · rw [scientific, hchars, hpoint, hexponent, List.append_assoc]
      rfl
    · have hnone : (more.isEmpty && n.exponent.isNone) = false := Bool.and_false _
      rw [Numeral.value, if_neg (Bool.eq_false_iff.mp hnone)]
      show Number.float (.ofDecimal negative (natOfDigits (first :: more))
        (exponentOf (some (decide (d.scientificExponent < 0), digits)) - more.length)) = _
      rw [hvalueOf, hvalue]

/-- A decimal in positional notation, with digits behind the point. -/
theorem positional_isWrittenBy (negative : Bool) (h : d.digits ≠ 0) (hexponent : d.exponent < 0) :
    (Number.float (.ofDecimal negative d.digits d.exponent)).IsWrittenBy negative
      (positional d) := by
  have hdigits : ∀ c ∈ digitChars d.digits, c.isDigit = true := isDigit_of_mem_toDigits
  have hvalue : natOfDigits (digitChars d.digits) = d.digits := natOfDigits_toDigits _
  have hhead : (digitChars d.digits).head? ≠ some '0' := head?_toDigits_ne h
  rw [positional]
  simp only [Int.not_le.mpr hexponent, if_false]
  split
  · next hplaces =>
    have hsplit := List.take_append_drop ((digitChars d.digits).length - d.exponent.natAbs)
      (digitChars d.digits)
    have hlength : ((digitChars d.digits).drop
        ((digitChars d.digits).length - d.exponent.natAbs)).length = d.exponent.natAbs := by
      rw [List.length_drop]
      omega
    have hwritten := @float_isWrittenBy negative
      ((digitChars d.digits).take ((digitChars d.digits).length - d.exponent.natAbs))
      ((digitChars d.digits).drop ((digitChars d.digits).length - d.exponent.natAbs))
      (fun c hc ↦ hdigits c (List.mem_of_mem_take hc))
      (List.ne_nil_of_length_pos (by rw [List.length_take]; omega))
      (fun hzero ↦ by
        rw [List.head?_take, if_neg (by omega)] at hzero
        exact absurd hzero hhead)
      (fun c hc ↦ hdigits c (List.mem_of_mem_drop hc)) (List.ne_nil_of_length_pos (by omega))
    rwa [hsplit, hvalue, hlength, show -(d.exponent.natAbs : Int) = d.exponent by omega]
      at hwritten
  · next hplaces =>
    let zeros := List.replicate (d.exponent.natAbs - (digitChars d.digits).length) '0'
    have hzeros : ∀ c ∈ zeros ++ digitChars d.digits, c.isDigit = true := by
      refine List.forall_mem_append.mpr ⟨fun c hc ↦ ?_, hdigits⟩
      rw [List.eq_of_mem_replicate hc]
      decide
    have hlength : (zeros ++ digitChars d.digits).length = d.exponent.natAbs := by
      rw [List.length_append, List.length_replicate]
      omega
    have hall : natOfDigits (['0'] ++ (zeros ++ digitChars d.digits)) = d.digits :=
      (natOfDigits_zeros_append 1 _).trans ((natOfDigits_zeros_append _ _).trans hvalue)
    have hwritten := @float_isWrittenBy negative ['0'] (zeros ++ digitChars d.digits)
      isDigit_of_mem_zero (List.cons_ne_nil _ _) (fun _ ↦ rfl) hzeros
      (List.ne_nil_of_length_pos (by omega))
    rwa [hall, hlength, show -(d.exponent.natAbs : Int) = d.exponent by omega] at hwritten

/-- A whole number in positional notation, with a zero behind the point. -/
theorem positional_isWrittenBy_of_le (negative : Bool) (h : d.digits ≠ 0)
    (hexponent : 0 ≤ d.exponent) :
    (Number.float (.ofDecimal negative d.digits d.exponent)).IsWrittenBy negative
      (positional d ++ ".0".toList) := by
  obtain ⟨places, hplaces⟩ := Int.eq_ofNat_of_zero_le hexponent
  have hwhole : positional d = Nat.toDigits 10 (d.digits * 10 ^ places) := by
    rw [positional, if_pos hexponent, toDigits_mul_pow h, hplaces]
    rfl
  have hall : natOfDigits (Nat.toDigits 10 (d.digits * 10 ^ places) ++ ['0']) =
      d.digits * 10 ^ (places + 1) := by
    have hzero := toDigits_mul_pow (mul_pow_ne_zero h places) 1
    rw [List.replicate_one] at hzero
    rw [← hzero, natOfDigits_toDigits, Nat.mul_assoc, ← Nat.pow_add]
  have hwritten := @float_isWrittenBy negative (Nat.toDigits 10 (d.digits * 10 ^ places)) ['0']
    isDigit_of_mem_toDigits Nat.toDigits_ne_nil
    (fun hzero ↦ absurd hzero (head?_toDigits_ne (mul_pow_ne_zero h places)))
    isDigit_of_mem_zero (List.cons_ne_nil _ _)
  have hmoved := ofDecimal_mul_pow negative d.digits (places + 1) places
  rw [show (places : Int) - (places + 1 : Nat) = -1 by omega] at hmoved
  rw [hall, List.length_singleton] at hwritten
  rw [hwhole, hplaces, ← hmoved]
  exact hwritten

theorem eq_zero_of_magnitude {exponent : Fin 2047} {fraction : Fin fractionCount}
    (h : magnitude exponent fraction = 0) : exponent.val = 0 ∧ fraction.val = 0 := by
  rw [magnitude] at h
  split at h
  · next hzero => exact ⟨hzero, h⟩
  · have hpositive : 0 < fractionCount := by decide
    rw [Nat.shiftLeft_eq] at h
    have hne := Nat.mul_ne_zero (by omega : fractionCount + fraction.val ≠ 0)
      (Nat.two_pow_pos (exponent.val - 1)).ne'
    exact absurd h hne

/-- The literal of a finite number has a numeral behind its sign. -/
theorem exists_literalChars (negative : Bool) (exponent : Fin 2047)
    (fraction : Fin fractionCount) :
    ∃ text, (finite negative exponent fraction).literalChars = signed negative text ∧
      (Number.float (finite negative exponent fraction)).IsWrittenBy negative text := by
  rw [literalChars]
  split
  · next hzero =>
    obtain ⟨hexponent, hfraction⟩ := eq_zero_of_magnitude hzero
    obtain rfl : exponent = 0 := Fin.ext hexponent
    obtain rfl : fraction = ⟨0, by decide⟩ := Fin.ext hfraction
    exact ⟨_, rfl, @float_isWrittenBy negative ['0'] ['0'] isDigit_of_mem_zero
      (List.cons_ne_nil _ _) (fun _ ↦ rfl) isDigit_of_mem_zero (List.cons_ne_nil _ _)⟩
  · next hmagnitude =>
    obtain ⟨hdigits, hback⟩ := readsBack_shortest hmagnitude
    have hvalue : ofDecimal negative (shortest exponent fraction).digits
        (shortest exponent fraction).exponent = finite negative exponent fraction := by
      cases negative with
      | false => exact hback
      | true => rw [ofDecimal_true, hback, neg, Bool.not_false]
    refine ⟨_, rfl, ?_⟩
    rw [← hvalue]
    split
    · exact scientific_isWrittenBy negative hdigits
    · split
      · next hwhole => exact positional_isWrittenBy_of_le negative hdigits hwhole
      · next hfraction =>
        exact positional_isWrittenBy negative hdigits (Int.not_le.mp hfraction)

end Binary64

/-- Whether a number is finite. -/
def Number.isFinite : Number → Bool
  | int _ => true
  | float x => x.isFinite

/-- The literal of a finite number is a numeral behind its sign. -/
theorem Number.exists_numeral {number : Number} (h : number.isFinite = true) :
    ∃ (negative : Bool) (n : Numeral),
      number.toValue.literalChars = Binary64.signed negative n.chars ∧
        n.value negative = number := by
  cases number with
  | int k =>
    obtain ⟨n, hchars, hvalue⟩ := Number.int_isWrittenBy (decide (k < 0)) k.natAbs
    refine ⟨decide (k < 0), n, ?_, hvalue.trans ?_⟩
    · rw [hchars]
      rfl
    · congr 1
      simp only [decide_eq_true_iff]
      split <;> omega
  | float x =>
    cases x with
    | finite negative exponent fraction =>
      obtain ⟨_, hchars, n, rfl, hvalue⟩ :=
        Binary64.exists_literalChars negative exponent fraction
      exact ⟨negative, n, hchars, hvalue⟩
    | infinity negative => cases h
    | nan => cases h

/-! ## Literals of scalars -/

namespace Scalar

/-- Whether a scalar is finite. -/
def isFinite : Scalar → Bool
  | number n => n.isFinite
  | _ => true

/-- The scalar that a literal in front of a text means, and what follows the literal. -/
def read? : List Char → Option (Scalar × List Char)
  | [] => none
  | c :: rest =>
    if Text.isQuote c then
      (Text.Evaluation.read c .plain rest).map fun (meaning, following) ↦
        (text (String.ofList meaning), following)
    else if c == '-' then
      (Number.read? true rest).map fun (n, following) ↦ (number n, following)
    else if "True".toList.isPrefixOf (c :: rest) then some (bool true, rest.drop 3)
    else if "False".toList.isPrefixOf (c :: rest) then some (bool false, rest.drop 4)
    else (Number.read? false (c :: rest)).map fun (n, following) ↦ (number n, following)

/-- The scalar that a literal means. Integers have a limit on their digits. -/
def evaluate? (literal : String) : Option Scalar :=
  match read? literal.toList with
  | some (s, []) => if s.isWritable then some s else none
  | _ => none

theorem read?_minus {input rest : List Char} {n : Number}
    (h : Number.read? true input = some (n, rest)) :
    read? ('-' :: input) = some (number n, rest) := by
  have hquote : Text.isQuote '-' = false := by decide
  simp [read?, h, hquote]

/-- A number without a sign begins with a digit, and nothing else does. -/
theorem read?_number {input rest : List Char} {n : Number}
    (h : Number.read? false input = some (n, rest)) : read? input = some (number n, rest) := by
  cases input with
  | nil => cases h
  | cons c more =>
    by_cases hdigit : c.isDigit
    · have hascii := Text.toNat_lt_of_isDigit hdigit
      have hother := Text.forall_ascii (p := fun c ↦ !c.isDigit ||
        (!Text.isQuote c && c != '-' && c != 'T' && c != 'F')) (by decide) hascii
      simp only [hdigit, Bool.not_true, Bool.false_or, Bool.and_eq_true, Bool.not_eq_true',
        bne_iff_ne] at hother
      obtain ⟨⟨⟨hquote, hminus⟩, htrue⟩, hfalse⟩ := hother
      simp [read?, h, hquote, hminus, Ne.symm htrue, Ne.symm hfalse]
    · simp [Number.read?, hdigit] at h

theorem read?_text (s : String) (rest : List Char) :
    read? (Text.literalChars s.toList ++ rest) = some (text s, rest) := by
  have hquote := Text.Place.isQuote_literalQuote s.toList
  have hread := Text.Evaluation.read_append (Text.run_literalChars hquote s.toList) rest
  rw [Text.literalChars, List.cons_append, List.cons_append, read?, if_pos hquote, hread]
  simp

/-- The literal of a finite scalar means it, whatever follows. -/
theorem read?_literal {s : Scalar} (h : s.isFinite = true) {rest : List Char}
    (hrest : EndsNumber rest) : read? (s.literal.toList ++ rest) = some (s, rest) := by
  have hliteral : s.literal.toList = s.toValue.literalChars := String.toList_ofList
  rw [hliteral]
  cases s with
  | text s => exact read?_text s rest
  | bool b => cases b <;> rfl
  | number number =>
    obtain ⟨negative, n, hchars, hvalue⟩ := Number.exists_numeral h
    have hread := n.read?_chars negative hrest
    rw [hvalue] at hread
    show read? (number.toValue.literalChars ++ rest) = _
    rw [hchars]
    cases negative with
    | false => exact read?_number hread
    | true => exact read?_minus hread

theorem endsNumber_nil : EndsNumber [] :=
  nofun

/-- The literals that mean their scalars are those of finite ones within the limit. -/
theorem evaluate?_literal_iff (s : Scalar) :
    evaluate? s.literal = some s ↔ s.isFinite = true ∧ s.isWritable = true := by
  by_cases hfinite : s.isFinite
  · have hread := read?_literal hfinite endsNumber_nil
    rw [List.append_nil] at hread
    rw [evaluate?, hread]
    simp [hfinite]
  · refine iff_of_false (fun h ↦ ?_) fun h ↦ hfinite h.1
    have hnone : evaluate? s.literal = none := by
      cases s with
      | text s => exact absurd rfl hfinite
      | bool b => exact absurd rfl hfinite
      | number n =>
        cases n with
        | int n => exact absurd rfl hfinite
        | float x =>
          cases x with
          | finite negative exponent fraction => exact absurd rfl hfinite
          | infinity negative => cases negative <;> decide
          | nan => decide
    rw [hnone] at h
    cases h

end Scalar

end ApiCompiler
