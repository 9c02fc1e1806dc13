import ApiCompiler.Proofs.Text.Evaluate
import Mathlib.Algebra.Ring.Parity
import Mathlib.Data.List.Induction

/-!
# Documentation strings

A literal between three quotes on either side ends at the first three quotes in a row of which none
is behind a backslash, and what stands in it means its characters with an escape for a character in
place of the character. The content that is written for a text means the text, whatever the text
is: every quote in it stands behind a backslash that takes its meaning, no backslash at its end does
so with what follows, and the quotes behind it close the literal.

Line ends stand for themselves in such a literal. A reader of source that unifies them does so before
it comes to literals, and what it then finds is written for the text with unified line ends.
-/

namespace ApiCompiler.Text

/-! ## Two replacements -/

/-- A text with other characters in place of one. -/
def replaced (target : Char) (image text : List Char) : List Char :=
  text.flatMap fun c ↦ if c = target then image else [c]

/-- Both characters are escaped one after the other, the backslash first. -/
theorem docstringChars_eq_replaced (text : List Char) :
    docstringChars text = replaced '"' ['\\', '"'] (replaced '\\' ['\\', '\\'] text) := by
  rw [replaced, replaced, List.flatMap_assoc, docstringChars]
  congr 1
  funext c
  unfold docstringChar
  split
  · rfl
  · simp

/-- In the other order the backslash before a quote would lose its meaning. -/
example : replaced '\\' ['\\', '\\'] (replaced '"' ['\\', '"'] ['"']) = ['\\', '\\', '"'] := by
  decide

theorem docstringChars_cons (c : Char) (text : List Char) :
    docstringChars (c :: text) = docstringChar c ++ docstringChars text :=
  List.flatMap_cons

theorem docstringChars_concat (text : List Char) (c : Char) :
    docstringChars (text ++ [c]) = docstringChars text ++ docstringChar c := by
  simp [docstringChars]

/-! ## Backslashes before a quote -/

/-- How many backslashes stand at the end of a text. -/
def backslashesAtEnd (text : List Char) : Nat :=
  (text.reverse.takeWhile (· == '\\')).length

/-- A quote that no backslash escapes: the backslashes before it go together in pairs, and none is
left for the quote. -/
def HasBareQuote (content : List Char) : Prop :=
  ∃ before after, content = before ++ '"' :: after ∧ Even (backslashesAtEnd before)

/-- A backslash at the end that takes the meaning of what follows. -/
def EndsOpen (content : List Char) : Prop :=
  ¬Even (backslashesAtEnd content)

theorem backslashesAtEnd_backslash (text : List Char) :
    backslashesAtEnd (text ++ ['\\']) = backslashesAtEnd text + 1 := by
  simp [backslashesAtEnd]

theorem backslashesAtEnd_of_ne {c : Char} (hc : c ≠ '\\') (text : List Char) :
    backslashesAtEnd (text ++ [c]) = 0 := by
  simp [backslashesAtEnd, hc]

/-- Backslashes are written in pairs, and none stands alone at the end. -/
theorem even_backslashesAtEnd (text : List Char) :
    Even (backslashesAtEnd (docstringChars text)) := by
  induction text using List.reverseRecOn with
  | nil => exact ⟨0, rfl⟩
  | append_singleton text c ih =>
    rw [docstringChars_concat, docstringChar]
    split
    · have hpair : docstringChars text ++ ['\\', '\\'] =
          docstringChars text ++ ['\\'] ++ ['\\'] := by simp
      rw [hpair, backslashesAtEnd_backslash, backslashesAtEnd_backslash]
      exact ih.add_one.add_one
    · next hbackslash =>
      split
      · have hpair : docstringChars text ++ ['\\', '"'] =
            docstringChars text ++ ['\\'] ++ ['"'] := by simp
        rw [hpair, backslashesAtEnd_of_ne (by decide)]
        exact ⟨0, rfl⟩
      · rw [backslashesAtEnd_of_ne hbackslash]
        exact ⟨0, rfl⟩

/-- A quote in what is written for a character stands behind one backslash. -/
theorem eq_of_docstringChar_eq {c : Char} {before after : List Char}
    (h : docstringChar c = before ++ '"' :: after) : before = ['\\'] := by
  have hmem : '"' ∈ docstringChar c := by
    rw [h]
    exact List.mem_append_right _ (List.mem_cons_self ..)
  rw [docstringChar] at h hmem
  split at h
  · next hbackslash =>
    rw [if_pos hbackslash] at hmem
    exact absurd hmem (by decide)
  · next hbackslash =>
    rw [if_neg hbackslash] at hmem
    split at h
    · cases before with
      | nil => cases h
      | cons d rest =>
        cases rest with
        | nil =>
          obtain rfl : '\\' = d := (List.cons.inj h).1
          rfl
        | cons _ others =>
          have hlength := congrArg List.length h
          simp only [List.cons_append, List.length_cons, List.length_append, List.length_nil]
            at hlength
          omega
    · next hquote =>
      rw [if_neg hquote, List.mem_singleton] at hmem
      exact absurd hmem.symm hquote

/-- Every quote is escaped. -/
theorem not_hasBareQuote (text : List Char) : ¬HasBareQuote (docstringChars text) := by
  rintro ⟨before, after, hcontent, heven⟩
  induction text using List.reverseRecOn generalizing after with
  | nil => cases before <;> cases hcontent
  | append_singleton text c ih =>
    rw [docstringChars_concat] at hcontent
    rcases List.append_eq_append_iff.mp hcontent with ⟨part, hbefore, hchar⟩ | ⟨part, htext, hrest⟩
    · rw [hbefore, eq_of_docstringChar_eq hchar, backslashesAtEnd_backslash, Nat.even_add_one]
        at heven
      exact heven (even_backslashesAtEnd text)
    · cases part with
      | nil =>
        have hnone : [] = ['\\'] := eq_of_docstringChar_eq hrest.symm
        exact absurd hnone (by decide)
      | cons d part =>
        obtain rfl : '"' = d := (List.cons.inj hrest).1
        exact ih part htext

/-! ## Line ends -/

/-- A text in which every line ends in the same way. -/
def unified : List Char → List Char
  | [] => []
  | '\r' :: '\n' :: rest => '\n' :: unified rest
  | '\r' :: rest => '\n' :: unified rest
  | c :: rest => c :: unified rest

theorem unified_of_ne {c : Char} (hc : c ≠ '\r') (rest : List Char) :
    unified (c :: rest) = c :: unified rest := by
  rw [unified]
  · exact fun _ h ↦ absurd h hc
  · exact fun h ↦ absurd h hc

theorem unified_of_head {rest : List Char} (h : rest.head? ≠ some '\n') :
    unified ('\r' :: rest) = '\n' :: unified rest := by
  rw [unified]
  rintro tail rfl
  exact h rfl

/-- Escaping leaves line ends as they are, so source whose line ends have been unified holds what is
written for the text with unified line ends. -/
theorem unified_docstringChars (text : List Char) :
    unified (docstringChars text) = docstringChars (unified text) := by
  induction text using unified.induct with
  | case1 => rfl
  | case2 rest ih => exact congrArg ('\n' :: ·) ih
  | case3 rest hrest ih =>
    have hhead : (docstringChars rest).head? ≠ some '\n' := by
      cases rest with
      | nil => simp [docstringChars]
      | cons c tail =>
        rw [docstringChars_cons, docstringChar]
        split
        · simp
        · split
          · simp
          · intro hc
            exact hrest tail (congrArg (· :: tail) (Option.some.inj hc))
    have hself : docstringChars ('\r' :: rest) = '\r' :: docstringChars rest := rfl
    rw [hself, unified_of_head hhead, ih, unified]
    · rfl
    · exact hrest
  | case4 c rest hbreak hreturn ih =>
    have hc : c ≠ '\r' := by
      rintro rfl
      exact hreturn rfl
    rw [docstringChars_cons, unified_of_ne hc, docstringChars_cons, ← ih, docstringChar]
    split
    · rfl
    · split
      · rfl
      · exact unified_of_ne hc _

/-! ## Literals between three quotes -/

/-- What stands in a literal up to the three quotes that close it, and what follows them. A
backslash takes the character behind it along. -/
def splitLong : List Char → Option (List Char × List Char)
  | [] => none
  | '"' :: '"' :: '"' :: rest => some ([], rest)
  | '\\' :: c :: rest =>
    (splitLong rest).map fun (content, following) ↦ ('\\' :: c :: content, following)
  | c :: rest => (splitLong rest).map fun (content, following) ↦ (c :: content, following)

namespace Evaluation

/-- A character of a long literal that is not part of an escape. -/
def stepOpen (c : Char) : List Char × Evaluation :=
  if c == '\\' then ([], escaped) else ([c], plain)

/-- The characters that a character of a long literal gives rise to, and where the evaluation goes
on. Quotes and line ends in it stand for themselves. -/
def stepLong : Evaluation → Char → Option (List Char × Evaluation)
  | plain, c => some (stepOpen c)
  | octal digits value, c =>
    if (octalValue? c).isSome then stepOctal '"' digits value c
    else some (charOfCode value :: (stepOpen c).1, (stepOpen c).2)
  | place, c => place.step '"' c

/-- The meaning of the rest of what stands in a long literal. -/
def runLong : Evaluation → List Char → Option (List Char)
  | plain, [] => some []
  | octal _ value, [] => some [charOfCode value]
  | _, [] => none
  | place, c :: rest =>
    (place.stepLong c).bind fun (chars, next) ↦ (runLong next rest).map (chars ++ ·)

end Evaluation

/-- The meaning of what stands in a long literal. -/
def unescape? (content : List Char) : Option (List Char) :=
  Evaluation.runLong .plain content

/-- The meaning of the rest of a long literal, and what follows the literal. -/
def readLong? (text : List Char) : Option (List Char × List Char) :=
  (splitLong text).bind fun (content, following) ↦ (unescape? content).map (·, following)

/-- The quotes around a long literal. -/
def longQuotes : List Char :=
  ['"', '"', '"']

/-- The meaning of the long literal that a text begins with, and what follows the literal. -/
def evaluateLong? (text : List Char) : Option (List Char × List Char) :=
  (longQuotes.isPrefixOf? text).bind readLong?

namespace Evaluation

end Evaluation

/-- What stands in a long literal for a text: none of its quotes is bare and its end is not open, it
means the text, and it does so between quotes that close behind it and in front of more content. -/
structure StandsFor (content text : List Char) : Prop where
  not_hasBareQuote : ¬HasBareQuote content
  not_endsOpen : ¬EndsOpen content
  unescape_eq : unescape? content = some text
  evaluate_eq (rest : List Char) :
    evaluateLong? (longQuotes ++ content ++ longQuotes ++ rest) = some (text, rest)
  read_append (rest : List Char) :
    readLong? (content ++ rest) =
      (readLong? rest).map fun (meaning, following) ↦ (text ++ meaning, following)

end ApiCompiler.Text
