import ApiCompiler.Binary64.Format
import Mathlib.Tactic.Ring

/-!
# Decimals that read back

Rounding a quotient depends on the quotient only, and the sign takes no part in it. So a decimal
means the same with zeros moved between its significand and its exponent, and a number that is a
whole number of units rounds to itself. The shortest decimal of a magnitude is found by reading
candidates back, and the exact one behind them needs no rounding: it reads back in any case.
-/

namespace ApiCompiler.Binary64

/-! ## Scaling -/

theorem divideToEven_mul (num den : Nat) {c : Nat} (hc : 0 < c) :
    divideToEven (num * c) (den * c) = divideToEven num den := by
  have hmore : 2 * (num % den * c) > den * c ↔ 2 * (num % den) > den := by
    rw [← Nat.mul_assoc]
    exact Nat.mul_lt_mul_right hc
  have hhalf : 2 * (num % den * c) = den * c ↔ 2 * (num % den) = den := by
    rw [← Nat.mul_assoc]
    exact Nat.mul_left_inj hc.ne'
  simp only [divideToEven, Nat.mul_div_mul_right _ _ hc, Nat.mul_mod_mul_right, hmore,
    Bool.or_eq_true, Bool.and_eq_true, decide_eq_true_iff, beq_iff_eq, hhalf]

theorem ofUnitRatio_mul (negative : Bool) (num den : Nat) {c : Nat} (hc : 0 < c) :
    ofUnitRatio negative (num * c) (den * c) = ofUnitRatio negative num den := by
  have hshift (shift : Nat) : (den * c) <<< shift = (den <<< shift) * c := by
    rw [Nat.shiftLeft_eq, Nat.shiftLeft_eq]
    ring
  simp only [ofUnitRatio, Nat.mul_div_mul_right _ _ hc, hshift, divideToEven_mul _ _ hc]

/-- Rounding does not depend on the terms of a quotient. -/
theorem ofRatio_mul (negative : Bool) (num den : Nat) {c : Nat} (hc : 0 < c) :
    ofRatio negative (num * c) (den * c) = ofRatio negative num den := by
  rw [ofRatio, Nat.mul_right_comm, ofUnitRatio_mul _ _ _ hc, ofRatio]

theorem digitCount_of_ne_zero {n : Nat} (h : n ≠ 0) :
    digitCount n = (Nat.toDigits 10 n).length :=
  if_neg h

theorem digitCount_le_iff {n k : Nat} (h : n ≠ 0) : digitCount n ≤ k ↔ n < 10 ^ k := by
  rw [digitCount_of_ne_zero h]
  cases k with
  | zero =>
    have hpos : 0 < (Nat.toDigits 10 n).length := Nat.length_toDigits_pos
    omega
  | succ k => exact Nat.length_toDigits_le_iff (by decide) (Nat.succ_pos k)

/-- Powers of ten put zeros at the end of the digits. -/
theorem toDigits_mul_pow {n : Nat} (h : n ≠ 0) (k : Nat) :
    Nat.toDigits 10 (n * 10 ^ k) = Nat.toDigits 10 n ++ List.replicate k '0' := by
  induction k with
  | zero => simp
  | succ k ih =>
    have hpos : 0 < n * 10 ^ k := Nat.mul_pos (Nat.pos_of_ne_zero h) (Nat.pow_pos (by decide))
    have happend := Nat.toDigits_append_toDigits (b := 10) (by decide) hpos (d := 0) (by decide)
    calc
      Nat.toDigits 10 (n * 10 ^ (k + 1)) = Nat.toDigits 10 (10 * (n * 10 ^ k) + 0) := by
        congr 1
        ring
      _ = Nat.toDigits 10 (n * 10 ^ k) ++ ['0'] := by rw [← happend, Nat.toDigits_zero]
      _ = Nat.toDigits 10 n ++ List.replicate (k + 1) '0' := by
        rw [ih, List.append_assoc, List.replicate_succ']

theorem mul_pow_ne_zero {n : Nat} (h : n ≠ 0) (k : Nat) : n * 10 ^ k ≠ 0 :=
  Nat.mul_ne_zero h (Nat.pow_pos (by decide)).ne'

theorem digitCount_mul_pow {n : Nat} (h : n ≠ 0) (k : Nat) :
    digitCount (n * 10 ^ k) = digitCount n + k := by
  rw [digitCount_of_ne_zero (mul_pow_ne_zero h k), digitCount_of_ne_zero h, toDigits_mul_pow h,
    List.length_append, List.length_replicate]

/-- The number nearest to a decimal whose exponent is within bounds. -/
def ofScaled (negative : Bool) (digits : Nat) (exponent : Int) : Binary64 :=
  if exponent < 0 then ofRatio negative digits (10 ^ exponent.natAbs)
  else ofRatio negative (digits * 10 ^ exponent.natAbs) 1

theorem ofDecimal_eq (negative : Bool) (digits : Nat) (exponent : Int) :
    ofDecimal negative digits exponent =
      if digits = 0 then zero negative
      else if (digitCount digits : Int) + exponent > 310 then infinity negative
      else if (digitCount digits : Int) + exponent < -330 then zero negative
      else ofScaled negative digits exponent :=
  rfl

theorem ofScaled_mul_pow (negative : Bool) (digits k : Nat) (exponent : Int) :
    ofScaled negative (digits * 10 ^ k) (exponent - k) = ofScaled negative digits exponent := by
  have hpos (j : Nat) : 0 < 10 ^ j := Nat.pow_pos (by decide)
  have hadd {m : Nat} {i j : Nat} (h : i + j = m) : 10 ^ m = 10 ^ i * 10 ^ j := by
    rw [← h, Nat.pow_add]
  by_cases hneg : exponent < 0
  · have hsum : exponent.natAbs + k = (exponent - k).natAbs := by omega
    rw [ofScaled, if_pos (by omega), ofScaled, if_pos hneg, hadd hsum, ofRatio_mul _ _ _ (hpos k)]
  · by_cases hcross : exponent - k < 0
    · have hsum : (exponent - k).natAbs + exponent.natAbs = k := by omega
      have hscale := ofRatio_mul negative (digits * 10 ^ exponent.natAbs) 1
        (hpos (exponent - k).natAbs)
      rw [ofScaled, if_pos hcross, ofScaled, if_neg hneg, ← hscale, hadd hsum, Nat.one_mul]
      congr 1
      ring
    · have hsum : k + (exponent - k).natAbs = exponent.natAbs := by omega
      rw [ofScaled, if_neg hcross, ofScaled, if_neg hneg, hadd hsum, Nat.mul_assoc]

/-- Zeros may be moved from the exponent of a decimal to its significand. -/
theorem ofDecimal_mul_pow (negative : Bool) (digits k : Nat) (exponent : Int) :
    ofDecimal negative (digits * 10 ^ k) (exponent - k) = ofDecimal negative digits exponent := by
  by_cases hzero : digits = 0
  · rw [hzero, Nat.zero_mul, ofDecimal_eq, ofDecimal_eq, if_pos rfl, if_pos rfl]
  · have htop : (digitCount (digits * 10 ^ k) : Int) + (exponent - k) =
        digitCount digits + exponent := by
      rw [digitCount_mul_pow hzero]
      push_cast
      ring
    rw [ofDecimal_eq, ofDecimal_eq, if_neg (mul_pow_ne_zero hzero k), if_neg hzero, htop,
      ofScaled_mul_pow]

/-! ## Signs -/

theorem encode_true (mantissa shift : Nat) :
    encode true mantissa shift = (encode false mantissa shift).neg := by
  unfold encode
  split_ifs <;> rfl

theorem ofUnitRatio_true (num den : Nat) :
    ofUnitRatio true num den = (ofUnitRatio false num den).neg := by
  simp only [ofUnitRatio, encode_true]
  split_ifs <;> rfl

/-- The sign takes no part in rounding. -/
theorem ofDecimal_true (digits : Nat) (exponent : Int) :
    ofDecimal true digits exponent = (ofDecimal false digits exponent).neg := by
  rw [ofDecimal_eq, ofDecimal_eq]
  unfold ofScaled ofRatio
  simp only [ofUnitRatio_true]
  split_ifs <;> rfl

/-! ## Whole numbers of units -/

theorem divideToEven_of_dvd (quotient : Nat) {den : Nat} (h : 0 < den) :
    divideToEven (quotient * den) den = quotient := by
  have hne : ¬0 = den := h.ne
  simp [divideToEven, Nat.mul_div_cancel _ h, hne]

theorem fractionCount_eq : fractionCount = 2 ^ 52 := by
  decide

theorem encode_of_lt (negative : Bool) {mantissa : Nat} (h : mantissa < fractionCount)
    (shift : Nat) : encode negative mantissa shift = finite negative 0 ⟨mantissa, h⟩ :=
  dif_pos h

theorem encode_of_le (negative : Bool) (fraction : Fin fractionCount) {shift : Nat}
    (h : shift + 1 < 2047) :
    encode negative (fractionCount + fraction.val) shift =
      finite negative ⟨shift + 1, h⟩ fraction := by
  have hfraction : fractionCount + fraction.val - fractionCount = fraction.val := by omega
  rw [encode, dif_neg (by omega), dif_pos ⟨h, by rw [hfraction]; exact fraction.isLt⟩]
  simp only [hfraction]

theorem log2_mul_two_pow {m bits : Nat} (hlow : 2 ^ bits ≤ m) (hhigh : m < 2 * 2 ^ bits)
    (shift : Nat) : (m * 2 ^ shift).log2 = bits + shift := by
  have hpos : 0 < 2 ^ shift := Nat.two_pow_pos shift
  have hbits : 0 < 2 ^ bits := Nat.two_pow_pos bits
  rw [Nat.log2_eq_iff (Nat.mul_pos (by omega) hpos).ne']
  constructor
  · rw [Nat.pow_add]
    exact Nat.mul_le_mul_right _ hlow
  · rw [Nat.add_right_comm, Nat.pow_add, Nat.pow_succ, Nat.mul_comm (2 ^ bits)]
    exact Nat.mul_lt_mul_of_pos_right hhigh hpos

/-- What fits into a mantissa needs no rounding. -/
theorem ofUnitRatio_shifted (negative : Bool) {mantissa shift : Nat}
    (hmantissa : mantissa < 2 * fractionCount) (hshift : shift = 0 ∨ fractionCount ≤ mantissa) :
    ofUnitRatio negative (mantissa * 2 ^ shift) 1 = encode negative mantissa shift := by
  have hfound : (if mantissa * 2 ^ shift < 2 * fractionCount then 0
      else (mantissa * 2 ^ shift).log2 - 52) = shift := by
    cases shift with
    | zero => rw [Nat.pow_zero, Nat.mul_one, if_pos hmantissa]
    | succ k =>
      have hlow : fractionCount ≤ mantissa := hshift.resolve_left (Nat.succ_ne_zero k)
      have htwo : 2 ^ 1 ≤ 2 ^ (k + 1) := Nat.pow_le_pow_right (by decide) (Nat.le_add_left 1 k)
      have hgrown : mantissa * 2 ^ 1 ≤ mantissa * 2 ^ (k + 1) := Nat.mul_le_mul_left _ htwo
      have hlog : (mantissa * 2 ^ (k + 1)).log2 = 52 + (k + 1) :=
        log2_mul_two_pow (fractionCount_eq ▸ hlow) (fractionCount_eq ▸ hmantissa) (k + 1)
      rw [if_neg (by omega), hlog, Nat.add_sub_cancel_left]
  have hrounded : divideToEven (mantissa * 2 ^ shift) (1 <<< shift) = mantissa := by
    rw [Nat.one_shiftLeft]
    exact divideToEven_of_dvd mantissa (Nat.two_pow_pos shift)
  simp only [ofUnitRatio, Nat.div_one, hfound, hrounded]
  exact if_neg hmantissa.ne

/-- A magnitude in the format rounds to itself. -/
theorem ofUnitRatio_magnitude (negative : Bool) (exponent : Fin 2047)
    (fraction : Fin fractionCount) :
    ofUnitRatio negative (magnitude exponent fraction) 1 = finite negative exponent fraction := by
  obtain ⟨exponent, hexponent⟩ := exponent
  have hfraction := fraction.isLt
  cases exponent with
  | zero =>
    have hmagnitude : magnitude ⟨0, hexponent⟩ fraction = fraction.val * 2 ^ 0 :=
      (Nat.mul_one _).symm
    rw [hmagnitude, ofUnitRatio_shifted negative (by omega) (.inl rfl),
      encode_of_lt negative hfraction]
    rfl
  | succ k =>
    have hmagnitude : magnitude ⟨k + 1, hexponent⟩ fraction =
        (fractionCount + fraction.val) * 2 ^ k := by
      rw [magnitude, if_neg (Nat.succ_ne_zero k), Nat.shiftLeft_eq, Nat.add_sub_cancel]
    rw [hmagnitude, ofUnitRatio_shifted negative (by omega) (.inr (Nat.le_add_right _ _)),
      encode_of_le negative fraction hexponent]

/-! ## The shortest decimal -/

section Shortest

variable (exponent : Fin 2047) (fraction : Fin fractionCount)

/-- A decimal that reads back as a magnitude. -/
def Decimal.ReadsBack (d : Decimal) : Prop :=
  d.digits ≠ 0 ∧ ofDecimal false d.digits d.exponent = finite false exponent fraction

variable {exponent fraction}

theorem Decimal.ReadsBack.trim {d : Decimal} (h : d.ReadsBack exponent fraction) (fuel : Nat) :
    (d.trim fuel).ReadsBack exponent fraction := by
  induction fuel generalizing d with
  | zero => exact h
  | succ fuel ih =>
    rw [Decimal.trim]
    split
    · next hzero =>
      rw [Bool.and_eq_true, bne_iff_ne, beq_iff_eq] at hzero
      have hdigits : d.digits / 10 * 10 ^ 1 = d.digits := by omega
      have hmoved := ofDecimal_mul_pow false (d.digits / 10) 1 (d.exponent + 1)
      rw [hdigits, Nat.cast_one, Int.add_sub_cancel] at hmoved
      have hne : d.digits / 10 ≠ 0 := by omega
      exact ih ⟨hne, hmoved.symm.trans h.2⟩
    · exact h

/-- A candidate has been read back. -/
theorem readsBack_of_onGrid? {point : Int} {count : Nat} {d : Decimal}
    (hmagnitude : magnitude exponent fraction ≠ 0)
    (h : onGrid? exponent fraction point count = some d) : d.ReadsBack exponent fraction := by
  have hnonzero {digits : Nat} {grid : Int}
      (hread : ofDecimal false digits grid = finite false exponent fraction) : digits ≠ 0 := by
    rintro rfl
    rw [ofDecimal_eq, if_pos rfl, zero] at hread
    cases hread
    exact hmagnitude rfl
  unfold onGrid? at h
  dsimp only at h
  split_ifs at h with hhigh hlow
  · rw [Bool.and_eq_true, beq_iff_eq] at hhigh
    cases h
    exact ⟨hnonzero hhigh.1, hhigh.1⟩
  · rw [beq_iff_eq] at hlow
    cases h
    exact ⟨hnonzero hlow, hlow⟩

theorem magnitude_lt {exponent : Fin 2047} {bound : Nat} (h : exponent.val ≤ bound + 1)
    (fraction : Fin fractionCount) :
    magnitude exponent fraction < 2 * fractionCount * 2 ^ bound := by
  have hfraction := fraction.isLt
  unfold magnitude
  split
  · calc
      fraction.val < 2 * fractionCount * 1 := by omega
      _ ≤ 2 * fractionCount * 2 ^ bound := Nat.mul_le_mul_left _ Nat.one_le_two_pow
  · rw [Nat.shiftLeft_eq]
    calc
      (fractionCount + fraction.val) * 2 ^ (exponent.val - 1) <
          2 * fractionCount * 2 ^ (exponent.val - 1) :=
        Nat.mul_lt_mul_of_pos_right (by omega) (Nat.two_pow_pos _)
      _ ≤ 2 * fractionCount * 2 ^ bound :=
        Nat.mul_le_mul_left _ (Nat.pow_le_pow_right (by decide) (by omega))

/-- A whole number of units over as many tens as it has fives and twos. -/
theorem ofUnitRatio_tens (negative : Bool) (units places : Nat) :
    ofUnitRatio negative (units * 5 ^ places * 2 ^ places) (10 ^ places) =
      ofUnitRatio negative units 1 := by
  have htens : units * 5 ^ places * 2 ^ places = units * 10 ^ places := by
    rw [Nat.mul_assoc, ← Nat.mul_pow]
  rw [htens, ← ofUnitRatio_mul negative units 1 (Nat.pow_pos (n := places) (a := 10) (by decide)),
    Nat.one_mul]

/-- The exact expansion of a magnitude needs no rounding. -/
theorem readsBack_exact (hmagnitude : magnitude exponent fraction ≠ 0) :
    Decimal.ReadsBack exponent fraction
      ⟨magnitude exponent fraction * Nat.pow 5 1074, -1074⟩ := by
  have hpow : 0 < Nat.pow 5 1074 := by decide +kernel
  have hne : magnitude exponent fraction * Nat.pow 5 1074 ≠ 0 :=
    Nat.mul_ne_zero hmagnitude hpow.ne'
  have hhigh : digitCount (magnitude exponent fraction * Nat.pow 5 1074) ≤ 1383 := by
    rw [digitCount_le_iff hne]
    calc
      magnitude exponent fraction * Nat.pow 5 1074 <
          2 * fractionCount * 2 ^ 2045 * Nat.pow 5 1074 :=
        Nat.mul_lt_mul_of_pos_right (magnitude_lt (by omega) fraction) hpow
      _ ≤ 10 ^ 1383 := by decide +kernel
  have hlow : 750 < digitCount (magnitude exponent fraction * Nat.pow 5 1074) := by
    by_contra! hle
    rw [digitCount_le_iff hne] at hle
    have hfive : 10 ^ 750 ≤ Nat.pow 5 1074 := by decide +kernel
    have hgrown := Nat.le_mul_of_pos_left (Nat.pow 5 1074) (Nat.pos_of_ne_zero hmagnitude)
    omega
  have hscaled : ofScaled false (magnitude exponent fraction * Nat.pow 5 1074) (-1074) =
      finite false exponent fraction := by
    rw [ofScaled, if_pos (by decide), ofRatio, unitsPerOne, Nat.one_shiftLeft]
    exact (ofUnitRatio_tens false _ 1074).trans (ofUnitRatio_magnitude false exponent fraction)
  refine ⟨hne, ?_⟩
  rw [ofDecimal_eq, if_neg hne, if_neg (by dsimp only; omega), if_neg (by dsimp only; omega),
    hscaled]

/-- The shortest decimal reads back. -/
theorem readsBack_shortest (hmagnitude : magnitude exponent fraction ≠ 0) :
    (shortest exponent fraction).ReadsBack exponent fraction := by
  unfold shortest
  dsimp only
  split
  · next d hfound =>
    obtain ⟨i, -, hgrid⟩ := List.exists_of_findSome?_eq_some hfound
    exact (readsBack_of_onGrid? hmagnitude hgrid).trim 20
  · exact readsBack_exact hmagnitude

end Shortest

end ApiCompiler.Binary64
