import ApiCompiler.Charset.Escaped
import ApiCompiler.Proofs.Text.Scan
import Mathlib.Algebra.Group.Nat.Defs

/-!
# Evaluating literals

What a literal of the generated language means: its characters, with an escape for a character in
place of the character. A quoted ASCII literal means its text unless a character of the text lies
beyond the first plane. Such a character is written by two code units, and the language reads each
of them as a character of its own. A literal that escapes as the language does means its text,
whatever the text is.
-/

namespace ApiCompiler.Text

/-! ## The meaning of a literal -/

/-- Where the evaluation of a literal stands: behind a character, behind a backslash, in an escape
by hexadecimal or octal digits of which some are to come, before or in the name of a character, or
behind the closing quote. -/
inductive Evaluation where
  | plain
  | escaped
  | hex (digits value : Nat)
  | octal (digits value : Nat)
  | beforeName
  | name (read : List Char)
  | closed

namespace Evaluation

/-- The character with a number, where there is one. -/
def ofCode (code : Nat) : Option (List Char × Evaluation) :=
  if code < 0x110000 then some ([charOfCode code], plain) else none

/-- The value of an octal digit. -/
def octalValue? (c : Char) : Option Nat :=
  if '0' ≤ c && c ≤ '7' then some (c.toNat - 48) else none

/-- A character that is not part of an escape. -/
def stepPlain (quote c : Char) : Option (List Char × Evaluation) :=
  if c == quote then some ([], closed)
  else if c == '\\' then some ([], escaped)
  else if isLineEnd c then none
  else some ([c], plain)

/-- The character behind a backslash. Before any other one than those of an escape the backslash
stands for itself. -/
def stepEscaped (c : Char) : Option (List Char × Evaluation) :=
  match Charset.letterEscapes.lookup c, octalValue? c with
  | some code, _ => some ([Char.ofNat code], plain)
  | none, some digit => some ([], octal 2 digit)
  | none, none =>
    if isLineEnd c then some ([], plain)
    else if c == 'x' then some ([], hex 2 0)
    else if c == 'u' then some ([], hex 4 0)
    else if c == 'U' then some ([], hex 8 0)
    else if c == 'N' then some ([], beforeName)
    else some (['\\', c], plain)

/-- A hexadecimal digit. -/
def stepHex (digits value : Nat) (c : Char) : Option (List Char × Evaluation) :=
  match Json.hexValue? c with
  | none => none
  | some digit =>
    if digits = 1 then ofCode (value * 16 + digit)
    else some ([], hex (digits - 1) (value * 16 + digit))

/-- An octal digit, or the character that ends an escape with less than three of them. -/
def stepOctal (quote : Char) (digits value : Nat) (c : Char) : Option (List Char × Evaluation) :=
  match octalValue? c with
  | some digit =>
    if digits = 1 then ofCode (value * 8 + digit)
    else some ([], octal (digits - 1) (value * 8 + digit))
  | none => (stepPlain quote c).map fun (chars, next) ↦ (charOfCode value :: chars, next)

/-- The characters that a character of a literal gives rise to, and where the evaluation goes on. -/
def step (quote : Char) : Evaluation → Char → Option (List Char × Evaluation)
  | plain, c => stepPlain quote c
  | escaped, c => stepEscaped c
  | hex digits value, c => stepHex digits value c
  | octal digits value, c => stepOctal quote digits value c
  | beforeName, c => if c == '\x7b' then some ([], name []) else none
  | name read, c =>
    if c == '\x7d' then (CharacterName.code? (String.ofList read.reverse)).bind ofCode
    else some ([], name (c :: read))
  | closed, _ => none

/-- The meaning of the rest of a literal with a quote. -/
def run (quote : Char) : Evaluation → List Char → Option (List Char)
  | closed, [] => some []
  | _, [] => none
  | place, c :: rest =>
    (place.step quote c).bind fun (chars, next) ↦ (run quote next rest).map (chars ++ ·)

end Evaluation

/-- The meaning of a literal between single quotes. -/
def evaluate? (literal : String) : Option String :=
  match literal.toList with
  | [] => none
  | quote :: rest =>
    if isQuote quote then (Evaluation.run quote .plain rest).map String.ofList else none

/-! ## Code points -/

variable {c : Char}

theorem isSurrogate_iff {code : Nat} : isSurrogate code = true ↔ 0xd800 ≤ code ∧ code < 0xe000 := by
  rw [isSurrogate, Bool.and_eq_true, decide_eq_true_iff, decide_eq_true_iff]

theorem toNat_ofNat {n : Nat} (h : n.isValidChar) : (Char.ofNat n).toNat = n := by
  rw [Char.ofNat, dif_pos h]
  rfl

theorem toNat_valid (c : Char) : c.toNat < 0xd800 ∨ 0xdfff < c.toNat ∧ c.toNat < 0x110000 :=
  c.valid

theorem codeOf_of_holds (h : 0x10d800 ≤ c.toNat) (hc : c.toNat < 0x10e000) :
    codeOf c = c.toNat - 0x100000 := by
  have hcond : (decide (0x10d800 ≤ c.toNat) && decide (c.toNat < 0x10e000)) = true := by
    rw [decide_eq_true h, decide_eq_true hc, Bool.and_self]
  rw [codeOf, surrogate?, if_pos hcond, Option.getD_some]

theorem codeOf_of_not_holds (h : ¬(0x10d800 ≤ c.toNat ∧ c.toNat < 0x10e000)) :
    codeOf c = c.toNat := by
  have hcond : ¬(decide (0x10d800 ≤ c.toNat) && decide (c.toNat < 0x10e000)) = true := by
    rwa [Bool.and_eq_true, decide_eq_true_iff, decide_eq_true_iff]
  rw [codeOf, surrogate?, if_neg hcond, Option.getD_none]

/-- A character that holds no half of a pair is its own code point, which is no half of a pair. -/
theorem codeOf_cases (c : Char) :
    (codeOf c = c.toNat ∧ ¬isSurrogate c.toNat = true) ∨
      (c.toNat = 0x100000 + codeOf c ∧ isSurrogate (codeOf c) = true) := by
  have hvalid := toNat_valid c
  by_cases h : 0x10d800 ≤ c.toNat ∧ c.toNat < 0x10e000
  · have hcode : codeOf c = c.toNat - 0x100000 := codeOf_of_holds h.1 h.2
    right
    rw [isSurrogate_iff]
    omega
  · have hcode : codeOf c = c.toNat := codeOf_of_not_holds h
    left
    rw [isSurrogate_iff]
    omega

/-- Each character holds its code point. -/
theorem charOfCode_codeOf (c : Char) : charOfCode (codeOf c) = c := by
  obtain ⟨hcode, hsurrogate⟩ | ⟨hcode, hsurrogate⟩ := codeOf_cases c
  · rw [hcode, charOfCode, if_neg hsurrogate]
    exact Char.ofNat_toNat c
  · rw [charOfCode, if_pos hsurrogate, ← hcode]
    exact Char.ofNat_toNat c

theorem codeOf_lt (c : Char) : codeOf c < 0x110000 := by
  have hvalid := toNat_valid c
  obtain ⟨hcode, -⟩ | ⟨hcode, -⟩ := codeOf_cases c
  · omega
  · omega

/-! ## Code units -/

/-- The characters that hold the code units of a character. -/
def codeUnits (c : Char) : List Char :=
  if codeOf c < 0x10000 then [c]
  else [charOfCode (0xd800 + (codeOf c - 0x10000) / 0x400),
    charOfCode (0xdc00 + (codeOf c - 0x10000) % 0x400)]

/-- A text by its code units. -/
def inCodeUnits (text : String) : String :=
  String.ofList (text.toList.flatMap codeUnits)

/-- A text without characters beyond the first plane. -/
def IsBasic (text : String) : Prop :=
  ∀ c ∈ text.toList, codeOf c < 0x10000

instance (text : String) : Decidable (IsBasic text) :=
  List.decidableBAll (fun c ↦ codeOf c < 0x10000) text.toList

theorem isBasic_append {text rest : String} :
    IsBasic (text ++ rest) ↔ IsBasic text ∧ IsBasic rest := by
  rw [IsBasic, String.toList_append, List.forall_mem_append]
  rfl

theorem IsBasic.mono {text part : String} (h : IsBasic text)
    (hsubset : part.toList ⊆ text.toList) : IsBasic part :=
  fun c hc ↦ h c (hsubset hc)

theorem codeUnits_of_lt {c : Char} (h : codeOf c < 0x10000) : codeUnits c = [c] :=
  if_pos h

theorem length_le_length_flatMap_codeUnits (text : List Char) :
    text.length ≤ (text.flatMap codeUnits).length := by
  induction text with
  | nil => exact Nat.le_refl 0
  | cons c rest ih =>
    have hpositive : 1 ≤ (codeUnits c).length := by
      unfold codeUnits
      split <;> simp
    rw [List.flatMap_cons, List.length_append, List.length_cons]
    omega

/-- By its code units a text is longer as soon as one of its characters has two of them. -/
theorem flatMap_codeUnits_eq_self_iff {text : List Char} :
    text.flatMap codeUnits = text ↔ ∀ c ∈ text, codeOf c < 0x10000 := by
  induction text with
  | nil => simp
  | cons c rest ih =>
    rw [List.flatMap_cons, List.forall_mem_cons]
    by_cases hc : codeOf c < 0x10000
    · rw [codeUnits_of_lt hc, List.singleton_append, List.cons_inj_right, ih]
      exact (and_iff_right hc).symm
    · have hlength : (codeUnits c).length = 2 := by
        rw [codeUnits, if_neg hc]
        rfl
      refine iff_of_false (fun h ↦ ?_) fun h ↦ hc h.1
      have hle := length_le_length_flatMap_codeUnits rest
      have hsum := congrArg List.length h
      rw [List.length_append, List.length_cons, hlength] at hsum
      omega

theorem inCodeUnits_eq_self_iff {text : String} : inCodeUnits text = text ↔ IsBasic text := by
  rw [IsBasic, ← flatMap_codeUnits_eq_self_iff, inCodeUnits, ← String.toList_inj,
    String.toList_ofList]

/-- A character that comes in for another one holds half of a pair. -/
theorem eq_or_le_of_mem_codeUnits {c d : Char} (h : d ∈ codeUnits c) :
    d = c ∨ 0x10d800 ≤ d.toNat := by
  have hhalf {unit : Nat} (hlow : 0xd800 ≤ unit) (hhigh : unit < 0xe000) :
      0x10d800 ≤ (charOfCode unit).toNat := by
    have hvalid : (0x100000 + unit).isValidChar := .inr ⟨by omega, by omega⟩
    rw [charOfCode, if_pos (isSurrogate_iff.mpr ⟨hlow, hhigh⟩), toNat_ofNat hvalid]
    omega
  have hbound := codeOf_lt c
  unfold codeUnits at h
  split at h
  · exact .inl (List.mem_singleton.mp h)
  · right
    rcases List.mem_cons.mp h with rfl | h
    · exact hhalf (by omega) (by omega)
    · rw [List.mem_singleton.mp h]
      exact hhalf (by omega) (by omega)

/-! ## Quoted literals -/

namespace Evaluation

variable {quote c : Char} {text rest : List Char}

/-- Characters inside of a literal that mean other ones, whatever follows. -/
def Means (quote : Char) (text meaning : List Char) : Prop :=
  ∀ rest, run quote plain (text ++ rest) = (run quote plain rest).map (meaning ++ ·)

theorem run_cons {place next : Evaluation} {chars : List Char}
    (h : place.step quote c = some (chars, next)) (rest : List Char) :
    run quote place (c :: rest) = (run quote next rest).map (chars ++ ·) := by
  rw [run, h]
  rfl

theorem means_nil (quote : Char) : Means quote [] [] := by
  intro rest
  simp

theorem Means.append {meaning others : List Char} (h : Means quote text meaning)
    (hrest : Means quote rest others) : Means quote (text ++ rest) (meaning ++ others) := by
  intro following
  rw [List.append_assoc, h, hrest, Option.map_map]
  simp [Function.comp_def]

theorem means_flatMap {f g : Char → List Char} (h : ∀ c ∈ text, Means quote (f c) (g c)) :
    Means quote (text.flatMap f) (text.flatMap g) := by
  induction text with
  | nil => exact means_nil quote
  | cons c rest ih =>
    obtain ⟨hc, hrest⟩ := List.forall_mem_cons.mp h
    rw [List.flatMap_cons, List.flatMap_cons]
    exact hc.append (ih hrest)

theorem means_self (h : stepPlain quote c = some ([c], plain)) : Means quote [c] [c] := by
  intro rest
  have hstep : plain.step quote c = some ([c], plain) := h
  exact run_cons hstep rest

theorem ne_backslash_of_isQuote (h : isQuote quote = true) : quote ≠ '\\' := by
  rintro rfl
  cases h

/-- What stands behind a backslash is read as an escape. -/
theorem run_backslash (hquote : isQuote quote = true) (rest : List Char) :
    run quote plain ('\\' :: rest) = run quote escaped rest := by
  have hstep : plain.step quote '\\' = some ([], escaped) := by
    have hne : ('\\' == quote) = false := beq_false_of_ne (ne_backslash_of_isQuote hquote).symm
    rw [step, stepPlain, hne]
    rfl
  rw [run_cons hstep]
  simp

/-- A backslash and a letter mean one character. -/
theorem means_letter (hquote : isQuote quote = true) {d : Char}
    (h : stepEscaped c = some ([d], plain)) : Means quote ['\\', c] [d] := by
  intro rest
  have hletter : escaped.step quote c = some ([d], plain) := h
  calc
    run quote plain ('\\' :: c :: rest) = run quote escaped (c :: rest) :=
      run_backslash hquote _
    _ = (run quote plain rest).map ([d] ++ ·) := run_cons hletter rest

theorem hexValue?_hexDigit : ∀ n < 16, Json.hexValue? (hexDigit n) = some n := by
  decide

/-- A digit of an escape that is not its last one. -/
theorem run_hex_succ {digits value n : Nat} (hn : n < 16) (rest : List Char) :
    run quote (hex (digits + 2) value) (hexDigit n :: rest) =
      run quote (hex (digits + 1) (value * 16 + n)) rest := by
  have hstep : (hex (digits + 2) value).step quote (hexDigit n) =
      some ([], hex (digits + 1) (value * 16 + n)) := by
    rw [step, stepHex, hexValue?_hexDigit n hn]
    simp
  rw [run_cons hstep]
  simp

/-- The last digit of an escape. -/
theorem run_hex_one {value n : Nat} (hn : n < 16) (hcode : value * 16 + n < 0x110000)
    (rest : List Char) :
    run quote (hex 1 value) (hexDigit n :: rest) =
      (run quote plain rest).map ([charOfCode (value * 16 + n)] ++ ·) := by
  have hstep : (hex 1 value).step quote (hexDigit n) =
      some ([charOfCode (value * 16 + n)], plain) := by
    rw [step, stepHex, hexValue?_hexDigit n hn]
    simp [ofCode, hcode]
  exact run_cons hstep rest

/-- Digits of an escape behind which more are to come. -/
theorem run_hex_hexFixed (width more value : Nat) {n : Nat} (hn : n < 16 ^ width)
    (rest : List Char) :
    run quote (hex (width + (more + 1)) value) (hexFixed width n ++ rest) =
      run quote (hex (more + 1) (value * 16 ^ width + n)) rest := by
  induction width generalizing more n rest with
  | zero =>
    obtain rfl : n = 0 := by omega
    simp [hexFixed]
  | succ width ih =>
    have hlast : n % 16 < 16 := Nat.mod_lt n (by decide)
    have hfirst : n / 16 < 16 ^ width := Nat.div_lt_of_lt_mul (by rw [← Nat.pow_succ']; exact hn)
    have hvalue : (value * 16 ^ width + n / 16) * 16 + n % 16 = value * 16 ^ (width + 1) + n := by
      rw [Nat.add_mul, Nat.mul_assoc, ← Nat.pow_succ, Nat.add_assoc, Nat.mul_comm (n / 16),
        Nat.div_add_mod]
    rw [hexFixed, List.append_assoc, Nat.add_right_comm, Nat.add_assoc width (more + 1) 1,
      ih (more + 1) hfirst, List.singleton_append, run_hex_succ hlast, hvalue]

/-- All digits of an escape mean the character with this number. -/
theorem run_hex_closed {width n : Nat} (hn : n < 16 ^ (width + 1)) (hcode : n < 0x110000)
    (rest : List Char) :
    run quote (hex (width + 1) 0) (hexFixed (width + 1) n ++ rest) =
      (run quote plain rest).map ([charOfCode n] ++ ·) := by
  have hlast : n % 16 < 16 := Nat.mod_lt n (by decide)
  have hfirst : n / 16 < 16 ^ width := Nat.div_lt_of_lt_mul (by rw [← Nat.pow_succ']; exact hn)
  have hvalue : (0 * 16 ^ width + n / 16) * 16 + n % 16 = n := by omega
  rw [hexFixed, List.append_assoc, run_hex_hexFixed width 0 0 hfirst, List.singleton_append,
    run_hex_one hlast (by omega), hvalue]

/-- An escape by hexadecimal digits means the character that holds the code. -/
theorem means_hex (hquote : isQuote quote = true) {width code : Nat}
    (hletter : stepEscaped c = some ([], hex (width + 1) 0)) (hn : code < 16 ^ (width + 1))
    (hcode : code < 0x110000) :
    Means quote ('\\' :: c :: hexFixed (width + 1) code) [charOfCode code] := by
  intro rest
  have hstep : escaped.step quote c = some ([], hex (width + 1) 0) := hletter
  rw [List.cons_append, List.cons_append, run_backslash hquote, run_cons hstep,
    run_hex_closed hn hcode]
  simp [Function.comp_def]

/-- A code unit in an escape means the character that holds it. -/
theorem means_unitEscape {unit : Nat} (h : unit < 0x10000) :
    Means '"' (unitEscape unit) [charOfCode unit] := by
  have hletter : stepEscaped 'u' = some ([], hex (3 + 1) 0) := rfl
  exact means_hex rfl hletter h (Nat.lt_trans h (by decide))

/-! ## The characters of a quoted literal -/

theorem means_pointEscape (c : Char) : Means '"' (pointEscape (codeOf c)) (codeUnits c) := by
  rw [pointEscape, codeUnits]
  split
  · next hcode =>
    have hmeans := means_unitEscape hcode
    rwa [charOfCode_codeOf] at hmeans
  · next hcode =>
    have hbound := codeOf_lt c
    exact (means_unitEscape (by omega)).append (means_unitEscape (by omega))

/-- An ASCII character is its own code point. -/
theorem codeUnits_of_toNat_le (h : c.toNat ≤ 126) : codeUnits c = [c] := by
  refine codeUnits_of_lt ?_
  obtain ⟨hcode, -⟩ | ⟨hcode, -⟩ := codeOf_cases c
  · omega
  · omega

theorem means_quotedChar (c : Char) : Means '"' (quotedChar c) (codeUnits c) := by
  -- The short escapes stand for one character each.
  have hshort (d letter : Char) (h : stepEscaped letter = some ([d], plain))
      (hd : d.toNat ≤ 126) : Means '"' ['\\', letter] (codeUnits d) := by
    rw [codeUnits_of_toNat_le hd]
    exact means_letter rfl h
  have hof (n : Nat) (h : (c.toNat == n) = true) : c = Char.ofNat n := by
    rw [← beq_iff_eq.mp h, Char.ofNat_toNat]
  unfold quotedChar
  split_ifs with h1 h2 h3 h4 h5 h6 h7 h8
  · rw [beq_iff_eq.mp h1]
    exact hshort '"' '"' rfl (by decide)
  · rw [beq_iff_eq.mp h2]
    exact hshort '\\' '\\' rfl (by decide)
  · rw [beq_iff_eq.mp h3]
    exact hshort '\n' 'n' rfl (by decide)
  · rw [beq_iff_eq.mp h4]
    exact hshort '\r' 'r' rfl (by decide)
  · rw [beq_iff_eq.mp h5]
    exact hshort '\t' 't' rfl (by decide)
  · rw [hof 8 h6]
    exact hshort _ 'b' rfl (by decide)
  · rw [hof 12 h7]
    exact hshort _ 'f' rfl (by decide)
  · exact means_pointEscape c
  · simp only [Bool.or_eq_true, decide_eq_true_eq, not_or, Nat.not_lt] at h8
    rw [codeUnits_of_toNat_le h8.2]
    exact means_self (by simp [stepPlain, isLineEnd, h1, h2, h3, h4])

/-! ## The characters of a literal -/

/-- A character of a literal means itself. -/
theorem means_literalChar (hquote : isQuote quote = true) (c : Char) :
    Means quote (literalChar quote c) [c] := by
  have hcode (letter : Char) (width : Nat)
      (hletter : stepEscaped letter = some ([], hex (width + 1) 0))
      (h : codeOf c < 16 ^ (width + 1)) :
      Means quote ('\\' :: letter :: hexFixed (width + 1) (codeOf c)) [c] := by
    have hmeans := means_hex hquote hletter h (codeOf_lt c)
    rwa [charOfCode_codeOf] at hmeans
  unfold literalChar
  split_ifs with h1 h2 h3 h4 h5
  · refine means_letter hquote ?_
    simp only [Bool.or_eq_true, beq_iff_eq] at h1
    rcases h1 with rfl | rfl
    · simp only [isQuote, Bool.or_eq_true, beq_iff_eq] at hquote
      rcases hquote with rfl | rfl
      · rfl
      · rfl
    · rfl
  · rw [beq_iff_eq.mp h2]
    exact means_letter hquote rfl
  · rw [beq_iff_eq.mp h3]
    exact means_letter hquote rfl
  · rw [beq_iff_eq.mp h4]
    exact means_letter hquote rfl
  · rw [Bool.or_eq_true, not_or] at h1
    exact means_self (by simp [stepPlain, isLineEnd, h1.1, h1.2, h2, h3])
  · rw [codeEscape]
    split_ifs with hbyte hunit
    · exact hcode 'x' 1 rfl hbyte
    · exact hcode 'u' 3 rfl hunit
    · exact hcode 'U' 7 rfl (Nat.lt_trans (codeOf_lt c) (by decide))

/-! ## What follows a literal -/

/-- The meaning of the rest of a literal with a quote, and what follows the literal. -/
def read (quote : Char) : Evaluation → List Char → Option (List Char × List Char)
  | closed, rest => some ([], rest)
  | _, [] => none
  | place, c :: rest => (place.step quote c).bind fun (chars, next) ↦
    (read quote next rest).map fun (meaning, following) ↦ (chars ++ meaning, following)

theorem read_cons {place next : Evaluation} {chars : List Char}
    (h : place.step quote c = some (chars, next)) (rest : List Char) :
    read quote place (c :: rest) =
      (read quote next rest).map fun (meaning, following) ↦ (chars ++ meaning, following) := by
  have hopen : place ≠ closed := by
    rintro rfl
    cases h
  rw [read, h]
  · rfl
  · exact hopen

/-- What follows a literal does not change its meaning. -/
theorem read_append {place : Evaluation} {meaning : List Char}
    (h : run quote place text = some meaning) (rest : List Char) :
    read quote place (text ++ rest) = some (meaning, rest) := by
  induction text generalizing place meaning with
  | nil =>
    cases place with
    | closed =>
      cases h
      rw [List.nil_append, read]
    | _ => cases h
  | cons c text ih =>
    cases hstep : place.step quote c with
    | none =>
      rw [run, hstep] at h
      cases h
    | some result =>
      obtain ⟨chars, next⟩ := result
      rw [run_cons hstep, Option.map_eq_some_iff] at h
      obtain ⟨others, hothers, rfl⟩ := h
      rw [List.cons_append, read_cons hstep, ih hothers]
      rfl

end Evaluation

/-- Characters that mean others, up to the closing quote. -/
theorem run_closed {quote : Char} {text meaning : List Char}
    (h : Evaluation.Means quote text meaning) :
    Evaluation.run quote .plain (text ++ [quote]) = some meaning := by
  have hend : Evaluation.run quote .plain [quote] = some [] := by
    have hstep : Evaluation.plain.step quote quote = some ([], .closed) := by
      rw [Evaluation.step, Evaluation.stepPlain, beq_self_eq_true, if_pos rfl]
    rw [Evaluation.run_cons hstep]
    rfl
  rw [h, hend]
  simp

/-- The content of a literal with a quote, up to the closing one, means its text. -/
theorem run_literalChars {quote : Char} (hquote : isQuote quote = true) (text : List Char) :
    Evaluation.run quote .plain (text.flatMap (literalChar quote) ++ [quote]) = some text := by
  have hmeans : Evaluation.Means quote (text.flatMap (literalChar quote))
      (text.flatMap fun c ↦ [c]) :=
    Evaluation.means_flatMap fun c _ ↦ Evaluation.means_literalChar hquote c
  rw [List.flatMap_singleton' text] at hmeans
  exact run_closed hmeans

/-- A quoted literal means its text by its code units. -/
theorem evaluate?_quotedAscii (text : String) :
    evaluate? (quotedAscii text) = some (inCodeUnits text) := by
  have hmeans : Evaluation.Means '"' (text.toList.flatMap quotedChar)
      (text.toList.flatMap codeUnits) :=
    Evaluation.means_flatMap fun c _ ↦ Evaluation.means_quotedChar c
  have hrun : Evaluation.run '"' .plain (text.toList.flatMap quotedChar ++ ['"']) =
      some (text.toList.flatMap codeUnits) := run_closed hmeans
  rw [evaluate?, quotedAscii, String.toList_ofList, quotedAsciiChars, List.cons_append]
  simp only [hrun]
  rfl

end ApiCompiler.Text
