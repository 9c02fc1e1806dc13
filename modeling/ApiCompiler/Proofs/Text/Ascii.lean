import ApiCompiler.Text.Alphanumeric
import ApiCompiler.Text.Case
import ApiCompiler.Text.Digits
import ApiCompiler.Text.Identifier

/-!
# Classes of ASCII characters

Inside ASCII the character classes of the generated language agree with the simple ones: letters,
digits and the underscore are word characters and may stand in an identifier, and only the ten
digits are digits. A digit has no case, and it is not looked over when the case of a sigma before it
is decided. Each fact is checked for all 128 characters.
-/

namespace ApiCompiler.Text

/-- What holds of the 128 codes holds of every ASCII character. -/
theorem forall_ascii {p : Char → Bool} (h : ∀ n < 128, p (Char.ofNat n) = true) {c : Char}
    (hc : c.toNat < 128) : p c = true := by
  have hcode := h c.toNat hc
  rwa [Char.ofNat_toNat] at hcode

theorem toNat_lt_of_isDigit {c : Char} (h : c.isDigit = true) : c.toNat < 128 := by
  have hrange := Char.isDigit_iff_toNat.mp h
  have hnine : '9'.toNat = 57 := rfl
  omega

theorem toNat_lt_of_isLower {c : Char} (h : c.isLower = true) : c.toNat < 128 := by
  have hrange : (decide ('a'.val ≤ c.val) && decide (c.val ≤ 'z'.val)) = true := h
  simp only [Bool.and_eq_true, decide_eq_true_eq, UInt32.le_iff_toNat_le] at hrange
  have hz : 'z'.val.toNat = 122 := rfl
  have hcode : c.val.toNat = c.toNat := rfl
  omega

theorem toNat_lt_of_isUpper {c : Char} (h : c.isUpper = true) : c.toNat < 128 := by
  have hrange : ('A'.val ≤ c.val ∧ c.val ≤ 'Z'.val) := of_decide_eq_true h
  simp only [UInt32.le_iff_toNat_le] at hrange
  have hz : 'Z'.val.toNat = 90 := rfl
  have hcode : c.val.toNat = c.toNat := rfl
  omega

/-! ## Letters, digits and the underscore -/

theorem isAlphanum_eq (c : Char) :
    c.isAlphanum = (c.isUpper || c.isLower || c.isDigit) := rfl

theorem toNat_lt_of_isAlphanum {c : Char} (h : (c.isAlphanum || c == '_') = true) :
    c.toNat < 128 := by
  simp only [isAlphanum_eq, Bool.or_eq_true, beq_iff_eq] at h
  rcases h with ((h | h) | h) | rfl
  · exact toNat_lt_of_isUpper h
  · exact toNat_lt_of_isLower h
  · exact toNat_lt_of_isDigit h
  · decide

theorem isWordChar_of_ascii {c : Char} (hc : c.toNat < 128)
    (h : (c.isAlphanum || c == '_') = true) : isWordChar c = true := by
  simpa [isWordChar, isAlphanumeric, hc] using h

theorem isIdentifierContinue_of_ascii {c : Char} (hc : c.toNat < 128)
    (h : (c.isAlphanum || c == '_') = true) : isIdentifierContinue c = true := by
  simpa [isIdentifierContinue, hc] using h

theorem isIdentifierStart_of_ascii {c : Char} (hc : c.toNat < 128)
    (h : (c.isAlpha || c == '_') = true) : isIdentifierStart c = true := by
  simpa [isIdentifierStart, hc] using h

/-- Inside ASCII there are no digits but the ten. -/
theorem isAnyDigit_of_ascii {c : Char} (hc : c.toNat < 128) : isAnyDigit c = c.isDigit := by
  simpa using forall_ascii (p := fun c ↦ isAnyDigit c == c.isDigit) (by decide) hc

theorem isIdentifierChars_append {text tail : List Char} (htext : isIdentifierChars text = true)
    (htail : ∀ c ∈ tail, isIdentifierContinue c = true) :
    isIdentifierChars (text ++ tail) = true := by
  cases text with
  | nil => simp [isIdentifierChars] at htext
  | cons c rest =>
    simp only [isIdentifierChars, Bool.and_eq_true, List.all_eq_true] at htext
    simp only [List.cons_append, isIdentifierChars, htext.1, Bool.true_and, List.all_append,
      Bool.and_eq_true, List.all_eq_true]
    exact ⟨htext.2, htail⟩

/-! ## Digits -/

/-- What holds of the ten digits holds of every digit. -/
theorem forall_digit {p : Char → Bool}
    (h : ∀ n < 128, (!(Char.ofNat n).isDigit || p (Char.ofNat n)) = true) {c : Char}
    (hc : c.isDigit = true) : p c = true := by
  have hclass := forall_ascii (p := fun c ↦ !c.isDigit || p c) h (toNat_lt_of_isDigit hc)
  simpa [hc] using hclass

theorem caseless_of_isDigit {c : Char} (h : c.isDigit = true) :
    (c.isUpper = false ∧ c.isLower = false ∧ c.toUpper = c) ∧
      lowerChar c = [c] ∧ isCased c = false ∧ isCaseIgnorable c = false := by
  simpa using forall_digit
    (p := fun c ↦ (!c.isUpper && (!c.isLower && c.toUpper == c)) &&
      (lowerChar c == [c] && (!isCased c && !isCaseIgnorable c))) (by decide +kernel) h

theorem isUpper_of_isDigit {c : Char} (h : c.isDigit = true) : c.isUpper = false :=
  (caseless_of_isDigit h).1.1

theorem isLower_of_isDigit {c : Char} (h : c.isDigit = true) : c.isLower = false :=
  (caseless_of_isDigit h).1.2.1

theorem toUpper_of_isDigit {c : Char} (h : c.isDigit = true) : c.toUpper = c :=
  (caseless_of_isDigit h).1.2.2

theorem lowerChar_of_isDigit {c : Char} (h : c.isDigit = true) : lowerChar c = [c] :=
  (caseless_of_isDigit h).2.1

theorem isCased_of_isDigit {c : Char} (h : c.isDigit = true) : isCased c = false :=
  (caseless_of_isDigit h).2.2.1

theorem isCaseIgnorable_of_isDigit {c : Char} (h : c.isDigit = true) :
    isCaseIgnorable c = false :=
  (caseless_of_isDigit h).2.2.2

/-! ## Small letters -/

/-- What holds of the small letters among the 128 codes holds of every small letter. -/
theorem forall_lower {p : Char → Bool}
    (h : ∀ n < 128, (!(Char.ofNat n).isLower || p (Char.ofNat n)) = true) {c : Char}
    (hc : c.isLower = true) : p c = true := by
  have hclass := forall_ascii (p := fun c ↦ !c.isLower || p c) h (toNat_lt_of_isLower hc)
  simpa [hc] using hclass

theorem cases_of_isLower {c : Char} (h : c.isLower = true) :
    c.isUpper = false ∧ c.toUpper.isUpper = true ∧ c.toUpper.toLower = c := by
  simpa using forall_lower
    (p := fun c ↦ !c.isUpper && (c.toUpper.isUpper && c.toUpper.toLower == c)) (by decide) h

theorem isUpper_of_isLower {c : Char} (h : c.isLower = true) : c.isUpper = false :=
  (cases_of_isLower h).1

theorem isUpper_toUpper_of_isLower {c : Char} (h : c.isLower = true) :
    c.toUpper.isUpper = true :=
  (cases_of_isLower h).2.1

theorem toLower_toUpper_of_isLower {c : Char} (h : c.isLower = true) :
    c.toUpper.toLower = c :=
  (cases_of_isLower h).2.2

/-! ## Lower case of a text with digits after it -/

/-- Digits after a text do not border it by case. -/
theorem borderedByCase_append_digits {digits : List Char} (hdigits : ∀ c ∈ digits, c.isDigit = true)
    (text : List Char) : borderedByCase (text ++ digits) = borderedByCase text := by
  have hborder : borderedByCase digits = false := by
    cases digits with
    | nil => rfl
    | cons d rest =>
      have hd := hdigits d (by simp)
      simp [borderedByCase, isCaseIgnorable_of_isDigit hd, isCased_of_isDigit hd]
  unfold borderedByCase at hborder ⊢
  rw [List.dropWhile_append]
  cases text.dropWhile isCaseIgnorable with
  | nil => simpa using hborder
  | cons d rest => rfl

theorem lowerAfter_append_digits {digits : List Char} (hdigits : ∀ c ∈ digits, c.isDigit = true)
    (text before : List Char) :
    lowerAfter before (text ++ digits) = lowerAfter before text ++ digits := by
  induction text generalizing before with
  | nil =>
    induction digits generalizing before with
    | nil => rfl
    | cons d rest ih =>
      have hd := hdigits d (by simp)
      have hsigma : (d == 'Σ') = false := by
        rw [beq_eq_false_iff_ne]
        rintro rfl
        exact absurd hd (by decide)
      have hrest := ih (fun c hc ↦ hdigits c (List.mem_cons_of_mem d hc)) (d :: before)
      simp only [List.nil_append] at hrest
      simp [lowerAfter, hsigma, lowerChar_of_isDigit hd, hrest]
  | cons c rest ih =>
    simp only [List.cons_append, lowerAfter, borderedByCase_append_digits hdigits, ih,
      List.append_assoc]

theorem lower_append_digits {digits : List Char} (hdigits : ∀ c ∈ digits, c.isDigit = true)
    (text : List Char) : lower (text ++ digits) = lower text ++ digits :=
  lowerAfter_append_digits hdigits text []

end ApiCompiler.Text
