import ApiCompiler.Naming.Spelling
import ApiCompiler.Proofs.Text.Ascii
import Mathlib.Data.List.Basic

/-!
# The shape of snake-case identifiers

The snake-case identifier of a text holds small ASCII letters, digits and underscores only. Digits
at the end of the text stay there: they start no word, change the case of nothing before them and
are kept as they are. So the identifiers of a text with different numbers after it differ in these
numbers alone.

An identifier of this kind is a row of runs of small letters and digits with one underscore between
neighbours, or an underscore alone where the text has no such run. A name of this form is its own
snake-case identifier. Without its underscores it is the text in lower case without everything that
is no ASCII letter or digit: word boundaries and other characters decide only where the underscores
stand.
-/

namespace ApiCompiler.Naming

/-- A character of a snake-case identifier. -/
def IsSnakeChar (c : Char) : Prop :=
  isSnakePart c = true ∨ c = '_'

/-! ## Runs of kept characters -/

theorem mem_pushRun {run other : List Char} {runs : List (List Char)} (h : other ∈ pushRun run runs) :
    other = run.reverse ∧ other ≠ [] ∨ other ∈ runs := by
  unfold pushRun at h
  split at h
  · exact .inr h
  · next hrun =>
    rcases List.mem_cons.mp h with rfl | h
    · exact .inl ⟨rfl, by simpa using hrun⟩
    · exact .inr h

/-- The runs of a text hold kept characters only. -/
theorem isSnakePart_of_mem_run {text run other : List Char} {c : Char}
    (hrun : ∀ c ∈ run, isSnakePart c = true) (hother : other ∈ snakeRunsFrom run text)
    (hc : c ∈ other) : isSnakePart c = true := by
  induction text generalizing run with
  | nil =>
    rcases mem_pushRun hother with ⟨rfl, -⟩ | hnil
    · exact hrun c (List.mem_reverse.mp hc)
    · simp at hnil
  | cons d rest ih =>
    rw [snakeRunsFrom] at hother
    split at hother
    · next hd => exact ih (by simpa [hd] using hrun) hother
    · rcases mem_pushRun hother with ⟨rfl, -⟩ | hrest
      · exact hrun c (List.mem_reverse.mp hc)
      · exact ih (by simp) hrest

/-- A run of a text has one character at least. -/
theorem ne_nil_of_mem_snakeRunsFrom {text run other : List Char}
    (h : other ∈ snakeRunsFrom run text) : other ≠ [] := by
  induction text generalizing run with
  | nil =>
    rcases mem_pushRun h with ⟨-, hne⟩ | hnil
    · exact hne
    · simp at hnil
  | cons c rest ih =>
    rw [snakeRunsFrom] at h
    split at h
    · exact ih h
    · rcases mem_pushRun h with ⟨-, hne⟩ | hrest
      · exact hne
      · exact ih hrest

theorem mem_joinRuns {runs : List (List Char)} {c : Char} (h : c ∈ joinRuns runs) :
    c = '_' ∨ ∃ run ∈ runs, c ∈ run := by
  induction runs using joinRuns.induct with
  | case1 => simp [joinRuns] at h
  | case2 run => exact .inr ⟨run, by simp, by simpa [joinRuns] using h⟩
  | case3 run rest hrest ih =>
    rw [joinRuns] at h
    · simp only [List.mem_append, List.mem_cons] at h
      rcases h with h | h | h
      · exact .inr ⟨run, by simp, h⟩
      · exact .inl h
      · rcases ih h with h | ⟨other, hmem, h⟩
        · exact .inl h
        · exact .inr ⟨other, by simp [hmem], h⟩
    · exact hrest

theorem isSnakeChar_of_mem {text : List Char} {c : Char} (h : c ∈ snakeIdentifierChars text) :
    IsSnakeChar c := by
  unfold snakeIdentifierChars at h
  split at h
  · exact .inr (by simpa using h)
  · rcases mem_joinRuns h with h | ⟨run, hrun, h⟩
    · exact .inr h
    · exact .inl (isSnakePart_of_mem_run (by simp) hrun h)

/-! ## Digits at the end of a text -/

section Digits

variable {digits : List Char} (hdigits : ∀ c ∈ digits, c.isDigit = true)

include hdigits

/-- A digit is no boundary, and none arises before it. -/
theorem markBoundaries_append_digits (text : List Char) (before : Option Char) :
    markBoundaries before (text ++ digits) = markBoundaries before text ++ digits := by
  induction text generalizing before with
  | nil =>
    induction digits generalizing before with
    | nil => cases before <;> rfl
    | cons d rest ih =>
      have hd := Text.isUpper_of_isDigit (hdigits d (by simp))
      have hrest := ih (fun c hc ↦ hdigits c (List.mem_cons_of_mem d hc)) (some d)
      simp only [List.nil_append] at hrest
      cases before <;> simp [markBoundaries, isBoundary, hd, hrest]
  | cons c rest ih =>
    cases before with
    | none => simp only [List.cons_append, markBoundaries, ih]
    | some b =>
      have hboundary : isBoundary b c (rest ++ digits).head? = isBoundary b c rest.head? := by
        cases rest with
        | cons _ _ => rfl
        | nil =>
          cases digits with
          | nil => rfl
          | cons d _ =>
            have hd := Text.isLower_of_isDigit (hdigits d (by simp))
            simp [isBoundary, hd]
      simp only [List.cons_append, markBoundaries, hboundary, ih]
      split <;> rfl

theorem snakeChars_append_digits (text : List Char) :
    snakeChars (text ++ digits) = snakeChars text ++ digits := by
  rw [snakeChars, markBoundaries_append_digits hdigits, Text.lower_append_digits hdigits,
    snakeChars]

end Digits

/-- Kept characters alone are one run with the characters before them. -/
theorem snakeRunsFrom_of_all {tail : List Char} (htail : ∀ c ∈ tail, isSnakePart c = true)
    (run : List Char) : snakeRunsFrom run tail = pushRun (tail.reverse ++ run) [] := by
  induction tail generalizing run with
  | nil => rfl
  | cons c rest ih =>
    have hc := htail c (by simp)
    have hrest := ih (fun d hd ↦ htail d (List.mem_cons_of_mem c hd)) (c :: run)
    rw [snakeRunsFrom, if_pos hc, hrest]
    simp

theorem joinRuns_pushRun {runs : List (List Char)} (hruns : runs ≠ []) (run : List Char) :
    joinRuns (pushRun run runs) =
      (if run.isEmpty then [] else run.reverse ++ ['_']) ++ joinRuns runs := by
  unfold pushRun
  split
  · rfl
  · rw [joinRuns]
    · simp
    · exact hruns

/-- Kept characters after a text stand after a beginning that depends on the text alone. -/
theorem exists_joinRuns_append (text run : List Char) :
    ∃ stem, ∀ tail ≠ [], (∀ c ∈ tail, isSnakePart c = true) →
      joinRuns (snakeRunsFrom run (text ++ tail)) = stem ++ tail := by
  induction text generalizing run with
  | nil =>
    refine ⟨run.reverse, fun tail hne htail ↦ ?_⟩
    rw [List.nil_append, snakeRunsFrom_of_all htail, pushRun, if_neg (by simp [hne])]
    simp [joinRuns]
  | cons c rest ih =>
    by_cases hc : isSnakePart c = true
    · obtain ⟨stem, hstem⟩ := ih (c :: run)
      refine ⟨stem, fun tail hne htail ↦ ?_⟩
      rw [List.cons_append, snakeRunsFrom, if_pos hc]
      exact hstem tail hne htail
    · obtain ⟨stem, hstem⟩ := ih []
      refine ⟨(if run.isEmpty then [] else run.reverse ++ ['_']) ++ stem, fun tail hne htail ↦ ?_⟩
      have hjoin := hstem tail hne htail
      have hruns : snakeRunsFrom [] (rest ++ tail) ≠ [] := by
        intro hnil
        rw [hnil, joinRuns] at hjoin
        exact hne (List.append_eq_nil_iff.mp hjoin.symm).2
      rw [List.cons_append, snakeRunsFrom, if_neg hc, joinRuns_pushRun hruns, hjoin,
        List.append_assoc]

/-- Digits after a text stand at the end of its identifier, after a beginning that depends on the
text alone. -/
theorem exists_snakeIdentifierChars_append (text : List Char) :
    ∃ stem, ∀ digits ≠ [], (∀ c ∈ digits, c.isDigit = true) →
      snakeIdentifierChars (text ++ digits) = stem ++ digits := by
  obtain ⟨stem, hstem⟩ := exists_joinRuns_append (snakeChars text) []
  refine ⟨stem, fun digits hne hdigits ↦ ?_⟩
  have hjoin := hstem digits hne fun c hc ↦ by simp [isSnakePart, hdigits c hc]
  rw [snakeIdentifierChars, snakeChars_append_digits hdigits, hjoin]
  split
  · next hnil => exact absurd (List.append_eq_nil_iff.mp hnil).2 hne
  · rfl

end ApiCompiler.Naming

namespace ApiCompiler

namespace Text

/-! ## The ASCII part of lower case -/

/-- Behind the capitals of ASCII there are no others. -/
theorem isUpper_ofNat {code : Nat} (h : 91 ≤ code) : (Char.ofNat code).isUpper = false := by
  by_cases hvalid : code.isValidChar
  · rw [← Bool.not_eq_true]
    intro hupper
    have hcode : (Char.ofNat code).toNat = code := by
      rw [Char.ofNat, dif_pos hvalid]
      rfl
    have hrange : 'A'.val ≤ (Char.ofNat code).val ∧ (Char.ofNat code).val ≤ 'Z'.val :=
      of_decide_eq_true hupper
    have hlast : (Char.ofNat code).toNat ≤ 90 := UInt32.le_iff_toNat_le.mp hrange.2
    omega
  · rw [Char.ofNat, dif_neg hvalid]
    rfl

/-- Lower case has no capitals, also where a character beyond ASCII becomes one of ASCII. -/
theorem isUpper_of_mem_lowerChar {c d : Char} (h : d ∈ lowerChar c) : d.isUpper = false := by
  unfold lowerChar at h
  split at h
  · next hascii =>
    have hsmall : (!c.toLower.isUpper) = true :=
      forall_ascii (p := fun c ↦ !c.toLower.isUpper) (by decide) hascii
    rw [List.mem_singleton.mp h, ← Bool.not_eq_true']
    exact hsmall
  · next hascii =>
    unfold mapCase at h
    split at h
    · next chars hchars =>
      have hentries : ∀ entry ∈ lowerExpansions, ∀ code ∈ entry.2,
          (Char.ofNat code).isUpper = false := by decide
      obtain ⟨entry, hentry, rfl⟩ := Option.map_eq_some_iff.mp hchars
      obtain ⟨code, hcode, rfl⟩ := List.mem_map.mp h
      exact hentries entry (List.mem_of_find?_eq_some hentry) code hcode
    · have hruns : ∀ run ∈ lowerRuns, 91 ≤ run.2.2.2 := by decide +kernel
      rw [List.mem_singleton.mp h]
      cases hcode : CaseRun.lookup? lowerRuns c.toNat with
      | none =>
        rw [Option.elim_none, ← Char.ofNat_toNat c]
        exact isUpper_ofNat (by omega)
      | some code =>
        obtain ⟨run, hrun, rfl⟩ := Option.map_eq_some_iff.mp hcode
        have htarget := hruns run (List.mem_of_find?_eq_some hrun)
        exact isUpper_ofNat (Nat.le_add_right_of_le htarget)

/-- The final sigma is the only character whose lower case depends on its neighbours, and neither
of its two forms is in ASCII. -/
theorem filter_lowerAfter (before text : List Char) :
    (lowerAfter before text).filter Char.isAlphanum =
      text.flatMap fun c ↦ (lowerChar c).filter Char.isAlphanum := by
  induction text generalizing before with
  | nil => rfl
  | cons c rest ih =>
    rw [lowerAfter, List.filter_append, List.flatMap_cons, ih]
    congr 1
    split
    · next hsigma =>
      rw [beq_iff_eq.mp hsigma]
      split <;> decide
    · rfl

theorem filter_lower (text : List Char) :
    (lower text).filter Char.isAlphanum =
      text.flatMap fun c ↦ (lowerChar c).filter Char.isAlphanum :=
  filter_lowerAfter [] text

theorem isUpper_of_mem_lowerAfter {text before : List Char} {c : Char}
    (h : c ∈ lowerAfter before text) : c.isUpper = false := by
  induction text generalizing before with
  | nil => cases h
  | cons d rest ih =>
    rw [lowerAfter, List.mem_append] at h
    rcases h with h | h
    · split at h
      · split at h <;> (rw [List.mem_singleton.mp h]; rfl)
      · exact isUpper_of_mem_lowerChar h
    · exact ih h

/-- Small letters and digits of ASCII stay as they are. -/
theorem lower_eq_self {text : List Char} (h : ∀ c ∈ text, c.toNat < 128 ∧ c.isUpper = false) :
    lower text = text := by
  have hafter (before : List Char) : lowerAfter before text = text := by
    induction text generalizing before with
    | nil => rfl
    | cons c rest ih =>
      obtain ⟨⟨hascii, hupper⟩, hrest⟩ := List.forall_mem_cons.mp h
      have hsigma : (c == 'Σ') = false := by
        rw [beq_eq_false_iff_ne]
        rintro rfl
        exact absurd hascii (by decide)
      have hsmall : c.toLower = c := by
        simpa [hupper] using
          forall_ascii (p := fun c ↦ c.isUpper || c.toLower == c) (by decide) hascii
      rw [lowerAfter, hsigma, lowerChar, if_pos hascii, hsmall, ih hrest]
      rfl
  exact hafter []

end Text

namespace Naming

/-! ## Runs -/

/-- A run of small ASCII letters and digits. -/
def IsRun (run : List Char) : Prop :=
  run ≠ [] ∧ ∀ c ∈ run, isSnakePart c = true

/-- Runs of small ASCII letters and digits with one underscore between neighbours, or an underscore
alone. -/
inductive IsSnakeForm : List Char → Prop
  | underscore : IsSnakeForm ['_']
  | runs (runs : List (List Char)) (hne : runs ≠ []) (hruns : ∀ run ∈ runs, IsRun run) :
      IsSnakeForm (List.intercalate ['_'] runs)

theorem joinRuns_eq_intercalate (runs : List (List Char)) :
    joinRuns runs = List.intercalate ['_'] runs := by
  induction runs using joinRuns.induct with
  | case1 => rfl
  | case2 run => simp [joinRuns]
  | case3 run rest hrest ih =>
    rw [joinRuns, ih, List.intercalate_cons_of_ne_nil hrest]
    · simp
    · exact hrest

theorem isRun_of_mem_snakeRunsFrom {text run : List Char} (h : run ∈ snakeRunsFrom [] text) :
    IsRun run :=
  ⟨ne_nil_of_mem_snakeRunsFrom h, fun _ hc ↦ isSnakePart_of_mem_run (by simp) h hc⟩

/-- The runs hold the kept characters of a text in order. -/
theorem flatten_snakeRunsFrom (text run : List Char) :
    (snakeRunsFrom run text).flatten = run.reverse ++ text.filter isSnakePart := by
  have hpush (run : List Char) (runs : List (List Char)) :
      (pushRun run runs).flatten = run.reverse ++ runs.flatten := by
    unfold pushRun
    cases run <;> simp
  induction text generalizing run with
  | nil => simp [snakeRunsFrom, hpush]
  | cons c rest ih =>
    rw [snakeRunsFrom]
    by_cases hc : isSnakePart c = true
    · rw [if_pos hc, ih, List.filter_cons_of_pos hc, List.reverse_cons, List.append_assoc]
      rfl
    · rw [if_neg hc, hpush, ih, List.filter_cons_of_neg hc]
      rfl

/-- Only the underscores between runs are underscores. -/
theorem filter_joinRuns {runs : List (List Char)} (h : ∀ run ∈ runs, IsRun run) :
    (joinRuns runs).filter (· != '_') = runs.flatten := by
  have hrun {run : List Char} (hrun : IsRun run) : run.filter (· != '_') = run := by
    rw [List.filter_eq_self]
    intro c hc
    have hpart := hrun.2 c hc
    rw [bne_iff_ne]
    rintro rfl
    exact absurd hpart (by decide)
  induction runs using joinRuns.induct with
  | case1 => rfl
  | case2 run => simpa [joinRuns] using hrun (h run (by simp))
  | case3 run rest hrest ih =>
    obtain ⟨hfirst, hothers⟩ := List.forall_mem_cons.mp h
    rw [joinRuns]
    · rw [List.filter_append, hrun hfirst, List.filter_cons_of_neg (by decide), ih hothers,
        List.flatten_cons]
    · exact hrest

/-- A run is read up to the underscore behind it. -/
theorem snakeRunsFrom_append {word rest : List Char} (hword : ∀ c ∈ word, isSnakePart c = true)
    (run : List Char) :
    snakeRunsFrom run (word ++ rest) = snakeRunsFrom (word.reverse ++ run) rest := by
  induction word generalizing run with
  | nil => rfl
  | cons c word ih =>
    obtain ⟨hc, hrest⟩ := List.forall_mem_cons.mp hword
    rw [List.cons_append, snakeRunsFrom, if_pos hc, ih hrest]
    simp

/-- Joined runs are read back. -/
theorem snakeRunsFrom_joinRuns {runs : List (List Char)} (h : ∀ run ∈ runs, IsRun run) :
    snakeRunsFrom [] (joinRuns runs) = runs := by
  have hpush {run : List Char} (hrun : IsRun run) (runs : List (List Char)) :
      pushRun (run.reverse ++ []) runs = run :: runs := by
    have hne : run.reverse.isEmpty = false := by simpa using hrun.1
    rw [List.append_nil, pushRun, hne, List.reverse_reverse]
    rfl
  induction runs using joinRuns.induct with
  | case1 => rfl
  | case2 run =>
    have hrun : IsRun run := h run (by simp)
    calc
      snakeRunsFrom [] (joinRuns [run]) = snakeRunsFrom [] (run ++ []) := by simp [joinRuns]
      _ = pushRun (run.reverse ++ []) [] := by rw [snakeRunsFrom_append hrun.2]; rfl
      _ = [run] := hpush hrun []
  | case3 run rest hrest ih =>
    obtain ⟨hrun, hothers⟩ := List.forall_mem_cons.mp h
    rw [joinRuns]
    · calc
        snakeRunsFrom [] (run ++ '_' :: joinRuns rest) =
            snakeRunsFrom (run.reverse ++ []) ('_' :: joinRuns rest) :=
          snakeRunsFrom_append hrun.2 []
        _ = pushRun (run.reverse ++ []) (snakeRunsFrom [] (joinRuns rest)) := rfl
        _ = run :: rest := by rw [ih hothers, hpush hrun]
    · exact hrest

/-! ## The form of a name -/

theorem joinRuns_ne_nil {runs : List (List Char)} (hne : runs ≠ [])
    (h : ∀ run ∈ runs, IsRun run) : joinRuns runs ≠ [] := by
  intro hnil
  have hruns := snakeRunsFrom_joinRuns h
  rw [hnil] at hruns
  exact hne hruns.symm

theorem snakeIdentifierChars_of_eq_nil {text : List Char}
    (h : snakeRunsFrom [] (snakeChars text) = []) : snakeIdentifierChars text = ['_'] := by
  rw [snakeIdentifierChars, h]
  rfl

theorem snakeIdentifierChars_of_ne_nil {text : List Char}
    (h : snakeRunsFrom [] (snakeChars text) ≠ []) :
    snakeIdentifierChars text = joinRuns (snakeRunsFrom [] (snakeChars text)) := by
  have hjoined := joinRuns_ne_nil h fun run ↦ isRun_of_mem_snakeRunsFrom
  unfold snakeIdentifierChars
  split
  · next hnil => exact absurd hnil hjoined
  · rfl

theorem isSnakeForm_snakeIdentifierChars (text : List Char) :
    IsSnakeForm (snakeIdentifierChars text) := by
  by_cases h : snakeRunsFrom [] (snakeChars text) = []
  · rw [snakeIdentifierChars_of_eq_nil h]
    exact .underscore
  · rw [snakeIdentifierChars_of_ne_nil h, joinRuns_eq_intercalate]
    exact .runs _ h fun run ↦ isRun_of_mem_snakeRunsFrom

/-! ## Names of names -/

theorem caseless_of_isSnakeChar {c : Char} (h : IsSnakeChar c) :
    c.toNat < 128 ∧ c.isUpper = false := by
  rcases h with h | rfl
  · rw [isSnakePart, Bool.or_eq_true] at h
    rcases h with h | h
    · exact ⟨Text.toNat_lt_of_isLower h, Text.isUpper_of_isLower h⟩
    · exact ⟨Text.toNat_lt_of_isDigit h, Text.isUpper_of_isDigit h⟩
  · decide

/-- Words begin at capitals, so there is no boundary without one. -/
theorem markBoundaries_eq_self {text : List Char} (h : ∀ c ∈ text, c.isUpper = false)
    (before : Option Char) : markBoundaries before text = text := by
  induction text generalizing before with
  | nil => cases before <;> rfl
  | cons c rest ih =>
    obtain ⟨hc, hrest⟩ := List.forall_mem_cons.mp h
    cases before with
    | none => rw [markBoundaries, ih hrest]
    | some b =>
      have hboundary : isBoundary b c rest.head? = false := by rw [isBoundary, hc, Bool.false_and]
      rw [markBoundaries, hboundary, ih hrest]
      rfl

theorem snakeChars_eq_self {text : List Char} (h : ∀ c ∈ text, IsSnakeChar c) :
    snakeChars text = text := by
  have hcase := fun c hc ↦ caseless_of_isSnakeChar (h c hc)
  rw [snakeChars, markBoundaries_eq_self fun c hc ↦ (hcase c hc).2]
  exact Text.lower_eq_self hcase

theorem snakeIdentifierChars_eq_self {text : List Char} (h : IsSnakeForm text)
    (hchars : ∀ c ∈ text, IsSnakeChar c) : snakeIdentifierChars text = text := by
  have hkept := snakeChars_eq_self hchars
  cases h with
  | underscore => rfl
  | runs runs hne hruns =>
    rw [← joinRuns_eq_intercalate] at hkept ⊢
    have hread : snakeRunsFrom [] (snakeChars (joinRuns runs)) = runs := by
      rw [hkept, snakeRunsFrom_joinRuns hruns]
    rw [snakeIdentifierChars_of_ne_nil (by rw [hread]; exact hne), hread]

/-! ## The text in a name -/

theorem flatMap_markBoundaries {f : Char → List Char} (h : f '_' = []) (text : List Char)
    (before : Option Char) : (markBoundaries before text).flatMap f = text.flatMap f := by
  induction text generalizing before with
  | nil => cases before <;> rfl
  | cons c rest ih =>
    cases before with
    | none => rw [markBoundaries, List.flatMap_cons, List.flatMap_cons, ih]
    | some b =>
      rw [markBoundaries]
      split
      · rw [List.flatMap_cons, List.flatMap_cons, List.flatMap_cons, ih, h, List.nil_append]
      · rw [List.flatMap_cons, List.flatMap_cons, ih]

theorem filter_snakeChars (text : List Char) :
    (snakeChars text).filter isSnakePart = (Text.lower text).filter Char.isAlphanum := by
  have hsmall : ∀ c ∈ snakeChars text, isSnakePart c = c.isAlphanum := by
    intro c hc
    rw [Text.isAlphanum_eq, Text.isUpper_of_mem_lowerAfter hc, Bool.false_or]
    rfl
  calc
    (snakeChars text).filter isSnakePart = (snakeChars text).filter Char.isAlphanum :=
      List.filter_congr hsmall
    _ = (markBoundaries none text).flatMap fun c ↦ (Text.lowerChar c).filter Char.isAlphanum :=
      Text.filter_lower _
    _ = text.flatMap fun c ↦ (Text.lowerChar c).filter Char.isAlphanum :=
      flatMap_markBoundaries (by decide) text none
    _ = (Text.lower text).filter Char.isAlphanum := (Text.filter_lower text).symm

/-- Without its underscores a name is the ASCII letters and digits of the text in lower case. -/
theorem filter_snakeIdentifierChars (text : List Char) :
    (snakeIdentifierChars text).filter (· != '_') =
      (Text.lower text).filter Char.isAlphanum := by
  have hkept := (flatten_snakeRunsFrom (snakeChars text) []).trans (filter_snakeChars text)
  by_cases h : snakeRunsFrom [] (snakeChars text) = []
  · rw [snakeIdentifierChars_of_eq_nil h, ← hkept, h]
    rfl
  · rw [snakeIdentifierChars_of_ne_nil h, filter_joinRuns fun run ↦ isRun_of_mem_snakeRunsFrom,
      hkept]

/-- A snake-case name is in normal form, it is its own snake-case name, and its letters and digits
are those of the text in lower case. So texts with one name agree in them: they differ in case, in
other characters and in where words begin. -/
theorem snakeIdentifier_isNormal (text : String) :
    IsSnakeForm (snakeIdentifier text).toList ∧
      snakeIdentifier (snakeIdentifier text) = snakeIdentifier text ∧
      (snakeIdentifier text).toList.filter (· != '_') =
        (Text.lower text.toList).filter Char.isAlphanum ∧
      ∀ other, snakeIdentifier other = snakeIdentifier text →
        (Text.lower other.toList).filter Char.isAlphanum =
          (Text.lower text.toList).filter Char.isAlphanum := by
  have hchars (text : String) : (snakeIdentifier text).toList = snakeIdentifierChars text.toList :=
    String.toList_ofList
  have hform := isSnakeForm_snakeIdentifierChars text.toList
  have hpart (text : String) : (snakeIdentifier text).toList.filter (· != '_') =
      (Text.lower text.toList).filter Char.isAlphanum := by
    rw [hchars, filter_snakeIdentifierChars]
  refine ⟨(hchars text).symm ▸ hform, ?_, hpart text, fun other h ↦ ?_⟩
  · rw [← String.toList_inj, hchars, hchars]
    exact snakeIdentifierChars_eq_self hform fun c ↦ isSnakeChar_of_mem
  · rw [← hpart other, h, hpart text]

/-- The sign of the unit of temperature becomes a letter of ASCII. -/
theorem snakeIdentifier_kelvin :
    snakeIdentifier "httpCall-inK" = snakeIdentifier "HTTPCall in \u212a" ∧
      (Text.lower "httpCall-inK".toList).filter Char.isAlphanum =
        (Text.lower "HTTPCall in \u212a".toList).filter Char.isAlphanum := by
  have hname : snakeIdentifier "httpCall-inK" = snakeIdentifier "HTTPCall in \u212a" := by
    decide
  exact ⟨hname, (snakeIdentifier_isNormal "HTTPCall in \u212a").2.2.2 "httpCall-inK" hname⟩

end Naming

end ApiCompiler
