import ApiCompiler.Proofs.Naming.Identifier
import ApiCompiler.Proofs.Text.Scan

/-!
# Pieces of code

Names, numbers and literals put together in code. A piece that closes its literals and does not
begin with a quote can follow any other such piece, and what they make is of the same kind.
-/

namespace ApiCompiler.Text

open Place

variable {a b : String}

/-! ## Plain texts -/

/-- A character that has no meaning of its own, neither in code nor in a literal. -/
def isPlainChar (c : Char) : Bool :=
  isCodeChar c && isContentChar '"' c && isContentChar '\'' c

/-- A text without quotes, backslashes, line ends and marks of comments. -/
def IsPlain (text : String) : Prop :=
  ∀ c ∈ text.toList, isPlainChar c = true

instance (text : String) : Decidable (IsPlain text) :=
  List.decidableBAll (fun c ↦ isPlainChar c = true) text.toList

theorem isPlain_ofList {text : List Char} (h : text.all isPlainChar = true) :
    IsPlain (String.ofList text) := by
  rw [List.all_eq_true] at h
  rwa [IsPlain, String.toList_ofList]

theorem IsPlain.append (ha : IsPlain a) (hb : IsPlain b) : IsPlain (a ++ b) := by
  intro c hc
  rw [String.toList_append, List.mem_append] at hc
  exact hc.elim (ha c) (hb c)

/-- All characters with a meaning are in ASCII, so a class is plain if it is so there. -/
theorem isPlainChar_of_ascii {p : Char → Bool}
    (h : ∀ n < 128, (!p (Char.ofNat n) || isPlainChar (Char.ofNat n)) = true) {c : Char}
    (hc : p c = true) : isPlainChar c = true := by
  by_cases hascii : c.toNat < 128
  · have hclass := forall_ascii (p := fun c ↦ !p c || isPlainChar c) h hascii
    simpa [hc] using hclass
  · have hne (d : Char) (hd : d.toNat < 128) : c ≠ d := by
      rintro rfl
      exact hascii hd
    simp [isPlainChar, isCodeChar, isContentChar, isQuote, isLineEnd, hne '"' (by decide),
      hne '\'' (by decide), hne '#' (by decide), hne '\\' (by decide), hne '\n' (by decide),
      hne '\r' (by decide)]

/-- An identifier has a first character, and others that go on with it. -/
theorem exists_cons_of_isIdentifier {name : String} (h : isIdentifier name = true) :
    ∃ first rest, name.toList = first :: rest ∧ isIdentifierStart first = true ∧
      ∀ c ∈ rest, isIdentifierContinue c = true := by
  unfold isIdentifier isIdentifierChars at h
  split at h
  · cases h
  · next first rest hname =>
    rw [Bool.and_eq_true, List.all_eq_true] at h
    exact ⟨first, rest, hname, h⟩

theorem isPlain_of_isIdentifier {name : String} (h : isIdentifier name = true) : IsPlain name := by
  obtain ⟨first, rest, hname, hfirst, hrest⟩ := exists_cons_of_isIdentifier h
  intro c hc
  rw [hname] at hc
  rcases List.mem_cons.mp hc with rfl | hc
  · exact isPlainChar_of_ascii (p := isIdentifierStart) (by decide) hfirst
  · exact isPlainChar_of_ascii (p := isIdentifierContinue) (by decide) (hrest c hc)

theorem ne_empty_of_isIdentifier {name : String} (h : isIdentifier name = true) : name ≠ "" := by
  rintro rfl
  cases h

theorem IsPlain.after_code (h : IsPlain a) : code.after a.toList = code := by
  refine after_code_of_forall fun c hc ↦ ?_
  have hplain := h c hc
  simp only [isPlainChar, Bool.and_eq_true] at hplain
  exact hplain.1.1

/-- A plain text stays inside of a literal. -/
theorem IsPlain.staysIn_short {quote : Char} (hquote : isQuote quote = true) (h : IsPlain a) :
    (short quote false).StaysIn a.toList := by
  refine staysIn_short_of_forall fun c hc ↦ ?_
  have hplain := h c hc
  simp only [isPlainChar, Bool.and_eq_true] at hplain
  rw [isQuote, Bool.or_eq_true, beq_iff_eq, beq_iff_eq] at hquote
  rcases hquote with rfl | rfl
  · exact hplain.1.2
  · exact hplain.2

/-- Nor does it leave a literal between three quotes. -/
theorem IsPlain.staysIn_long (h : IsPlain a) : (long '"' false 0).StaysIn a.toList := by
  have hone (c : Char) (hc : isPlainChar c = true) : (long '"' false 0).StaysIn [c] := by
    simp only [isPlainChar, isContentChar, Bool.and_eq_true, bne_iff_ne] at hc
    constructor
    · simp [after_cons, after_nil, nextInLong, hc.1.2.1.1, hc.1.2.1.2]
    · simp [blanked_cons, blanked_nil]
  have hflat : a.toList.flatMap (fun c ↦ [c]) = a.toList := List.flatMap_singleton' a.toList
  rw [← hflat]
  exact staysIn_flatMap fun c hc ↦ hone c (h c hc)

theorem IsPlain.after_long (h : IsPlain a) :
    (long '"' false 0).after a.toList = long '"' false 0 :=
  h.staysIn_long.after_eq

/-- The decimal digits of a number are plain. -/
theorem isPlain_toString (n : Nat) : IsPlain (toString n) := by
  intro c hc
  have hdigits : c ∈ Nat.toDigits 10 n := by simpa using hc
  have hdigit : c.isDigit = true := Nat.isDigit_of_mem_toDigits (by decide) (by decide) hdigits
  exact isPlainChar_of_ascii (p := Char.isDigit) (by decide) hdigit

/-! ## Snippets -/

/-- A piece of code that closes its literals and does not begin with a quote. -/
structure IsSnippet (text : String) : Prop where
  isClosed : IsClosed text
  head : ∀ c ∈ text.toList.head?, isQuote c = false

theorem IsPlain.isSnippet (h : IsPlain a) : IsSnippet a where
  isClosed := by rw [IsClosed, h.after_code]; rfl
  head c hc := by
    have hplain := h c (List.mem_of_mem_head? hc)
    simp only [isPlainChar, isCodeChar, Bool.and_eq_true, Bool.not_eq_true'] at hplain
    exact hplain.1.1.1

theorem isClosed_ofList {text : List Char} (h : (code.after text).isOutside = true) :
    IsClosed (String.ofList text) := by
  rwa [IsClosed, String.toList_ofList]

/-- Lines of fixed text. Their characters are found by unification, so that only one hole for each
line has to be given. -/
theorem isClosed_fixedLines (texts : List (List Char))
    (h : ∀ text ∈ texts, (code.after text).isOutside = true) :
    ∀ text ∈ texts.map String.ofList, IsClosed text :=
  List.forall_mem_map.mpr fun text htext ↦ isClosed_ofList (h text htext)

theorem IsClosed.append (ha : IsClosed a) (hb : IsSnippet b) : IsClosed (a ++ b) := by
  rw [IsClosed, String.toList_append, after_append]
  cases htext : b.toList with
  | nil => exact ha
  | cons c rest =>
    have hc : isQuote c = false := hb.head c (by simp [htext])
    rw [after_of_isOutside ha hc, ← htext]
    exact hb.isClosed

theorem IsSnippet.append (ha : IsSnippet a) (hb : IsSnippet b) : IsSnippet (a ++ b) where
  isClosed := ha.isClosed.append hb
  head c hc := by
    rw [String.toList_append, List.head?_append] at hc
    cases htext : a.toList.head? with
    | none => exact hb.head c (by simpa [htext] using hc)
    | some d => exact ha.head c (by simpa [htext] using hc)

theorem isSnippet_ofList {text : List Char} (h : (code.after text).isOutside = true)
    (hhead : text.head?.any isQuote = false) : IsSnippet (String.ofList text) := by
  rw [Option.any_eq_false] at hhead
  refine ⟨isClosed_ofList h, fun c hc ↦ ?_⟩
  rw [String.toList_ofList] at hc
  simpa using hhead c hc

theorem isClosed_append_ofList {text rest : List Char} (h : (code.after text).isOutside = true)
    (hrest : (code.after rest).isOutside = true) (hhead : rest.head?.any isQuote = false) :
    IsClosed (String.ofList text ++ String.ofList rest) :=
  (isClosed_ofList h).append (isSnippet_ofList hrest hhead)

/-- A closed text may begin with a quote behind plain text. -/
theorem IsPlain.append_closed (ha : IsPlain a) (hne : a ≠ "") (hb : IsClosed b) :
    IsSnippet (a ++ b) where
  isClosed := by
    rw [IsClosed, String.toList_append, after_append, ha.after_code]
    exact hb
  head c hc := by
    cases htext : a.toList with
    | nil => exact absurd (String.toList_eq_nil_iff.mp htext) hne
    | cons d rest =>
      rw [String.toList_append, htext] at hc
      exact ha.isSnippet.head c (by simpa [htext] using hc)

/-- So it may inside of a piece of code. -/
theorem IsSnippet.append_closed {c : String} (ha : IsSnippet a) (hb : IsPlain b) (hne : b ≠ "")
    (hc : IsClosed c) : IsSnippet (a ++ b ++ c) := by
  rw [String.append_assoc]
  exact ha.append (hb.append_closed hne hc)

theorem isClosed_literal (text : String) : IsClosed (literal text) := by
  rw [IsClosed, literal, String.toList_ofList]
  exact isOutside_after_literalChars text.toList

/-- Closed texts with a comma between neighbours. -/
theorem isClosed_intercalate {texts : List String} (h : ∀ text ∈ texts, IsClosed text) :
    IsClosed (", ".intercalate texts) := by
  induction texts with
  | nil => decide
  | cons first rest ih =>
    obtain ⟨hfirst, hrest⟩ := List.forall_mem_cons.mp h
    cases rest with
    | nil => simpa using hfirst
    | cons second others =>
      have hcomma : IsPlain ", " := by decide
      rw [String.intercalate_cons_cons, String.append_assoc]
      exact hfirst.append (hcomma.append_closed (by decide) (ih hrest))

end ApiCompiler.Text
