import ApiCompiler.Text.Literal
import Mathlib.Data.List.Basic

/-!
# Scanning generated text

A text of the generated language is scanned from left to right. A quote opens a literal, three of
them a long one, and a backslash takes the meaning of the character behind it. Blanking leaves what
stands outside of literals and the quotes around them. What is written in place of free text stays
inside its literal, whatever the free text is.
-/

namespace ApiCompiler.Text

/-! ## Places in a text -/

/-- Where a scan stands: in code or in a comment, behind the first or the second quote of an
opening, in a literal between single quotes or between three on either side, with a backslash
before it or some closing quotes already, or behind a literal that its line has cut off. -/
inductive Place where
  | code
  | comment
  | opening (quote : Char) (twice : Bool)
  | short (quote : Char) (escaped : Bool)
  | long (quote : Char) (escaped : Bool) (closing : Nat)
  | broken
  deriving DecidableEq

/-- A character that opens a literal. -/
def isQuote (c : Char) : Bool :=
  c == '"' || c == '\''

/-- A character that ends a line. -/
def isLineEnd (c : Char) : Bool :=
  c == '\n' || c == '\r'

namespace Place

/-- The place after a character of code. -/
def nextInCode (c : Char) : Place :=
  if isQuote c then opening c false else if c == '#' then comment else code

/-- The place after a character of a literal between single quotes. -/
def nextInShort (quote c : Char) : Place :=
  if c == quote then code
  else if c == '\\' then short quote true
  else if isLineEnd c then broken
  else short quote false

/-- The place after a character of a literal between three quotes. -/
def nextInLong (quote : Char) (closing : Nat) (c : Char) : Place :=
  if c == quote then if closing == 2 then code else long quote false (closing + 1)
  else long quote (c == '\\') 0

/-- The place after a character. -/
def next : Place → Char → Place
  | code, c => nextInCode c
  | comment, c => if isLineEnd c then code else comment
  | opening quote false, c => if c == quote then opening quote true else nextInShort quote c
  | opening quote true, c => if c == quote then long quote false 0 else nextInCode c
  | short quote true, _ => short quote false
  | short quote false, c => nextInShort quote c
  | long quote true _, _ => long quote false 0
  | long quote false closing, c => nextInLong quote closing c
  | broken, _ => broken

/-- What is left of a character when literals are blanked. -/
def kept : Place → Char → List Char
  | opening quote false, c => if c == quote then [c] else []
  | short _ true, _ => []
  | short quote false, c => if c == quote then [c] else []
  | long _ true _, _ => []
  | long quote false closing, c => if c == quote && closing == 2 then [c, c, c] else []
  | _, c => [c]

/-- The place after a text. -/
def after (place : Place) (text : List Char) : Place :=
  text.foldl next place

/-- What is left of a text when literals are blanked. -/
def blanked : Place → List Char → List Char
  | _, [] => []
  | place, c :: rest => place.kept c ++ (place.next c).blanked rest

/-- A place where code goes on: in code, or behind an empty literal. -/
def isOutside : Place → Bool
  | code => true
  | opening quote twice => isQuote quote && twice
  | _ => false

variable {place : Place} {quote c : Char} {text rest : List Char}

-- One equation for each place that a proof steps from. The matches of `next` and `kept` overlap, so
-- unfolding them where a step is taken would split on every place again.
@[simp]
theorem next_code (c : Char) : code.next c = nextInCode c :=
  rfl

@[simp]
theorem next_opening (quote c : Char) : (opening quote false).next c =
    if c == quote then opening quote true else nextInShort quote c :=
  rfl

@[simp]
theorem next_opened (quote c : Char) : (opening quote true).next c =
    if c == quote then long quote false 0 else nextInCode c :=
  rfl

@[simp]
theorem next_short (quote c : Char) : (short quote false).next c = nextInShort quote c :=
  rfl

@[simp]
theorem next_short_escaped (quote c : Char) : (short quote true).next c = short quote false :=
  rfl

@[simp]
theorem next_long (quote : Char) (closing : Nat) (c : Char) :
    (long quote false closing).next c = nextInLong quote closing c :=
  rfl

@[simp]
theorem kept_opening (quote c : Char) :
    (opening quote false).kept c = if c == quote then [c] else [] :=
  rfl

@[simp]
theorem kept_short (quote c : Char) :
    (short quote false).kept c = if c == quote then [c] else [] :=
  rfl

@[simp]
theorem kept_short_escaped (quote c : Char) : (short quote true).kept c = [] :=
  rfl

@[simp]
theorem kept_long (quote : Char) (closing : Nat) (c : Char) :
    (long quote false closing).kept c =
      if c == quote && closing == 2 then [c, c, c] else [] :=
  rfl

theorem after_nil (place : Place) : place.after [] = place :=
  rfl

theorem after_cons : place.after (c :: text) = (place.next c).after text :=
  rfl

theorem blanked_nil (place : Place) : place.blanked [] = [] :=
  rfl

theorem blanked_cons :
    place.blanked (c :: text) = place.kept c ++ (place.next c).blanked text :=
  rfl

theorem after_append (place : Place) (text rest : List Char) :
    place.after (text ++ rest) = (place.after text).after rest :=
  List.foldl_append

theorem blanked_append (place : Place) (text rest : List Char) :
    place.blanked (text ++ rest) = place.blanked text ++ (place.after text).blanked rest := by
  induction text generalizing place with
  | nil => rfl
  | cons c text ih =>
    calc
      place.blanked (c :: (text ++ rest)) =
          place.kept c ++ (place.next c).blanked (text ++ rest) := rfl
      _ = place.kept c ++ ((place.next c).blanked text ++
          ((place.next c).after text).blanked rest) := by rw [ih]
      _ = place.blanked (c :: text) ++ (place.after (c :: text)).blanked rest :=
        (List.append_assoc ..).symm

/-! ## Code -/

/-- A character that has no meaning of its own outside of literals. -/
def isCodeChar (c : Char) : Bool :=
  !isQuote c && c != '#'

theorem next_of_isOutside (h : place.isOutside = true) (hc : isQuote c = false) :
    place.next c = code.next c := by
  cases place with
  | code => rfl
  | opening quote twice =>
    rw [isOutside, Bool.and_eq_true] at h
    obtain ⟨hquote, rfl⟩ := h
    have hne : (c == quote) = false := by
      rw [beq_eq_false_iff_ne]
      rintro rfl
      rw [hquote] at hc
      cases hc
    simp only [next_opened, next_code, hne, Bool.false_eq_true, if_false]
  | _ => cases h

theorem kept_of_isOutside (h : place.isOutside = true) (c : Char) : place.kept c = [c] := by
  cases place with
  | code => rfl
  | opening quote twice =>
    rw [isOutside, Bool.and_eq_true] at h
    obtain ⟨-, rfl⟩ := h
    rfl
  | _ => cases h

/-- Where code goes on, it makes no difference whether an empty literal stands before. -/
theorem after_of_isOutside (h : place.isOutside = true) (hc : isQuote c = false) :
    place.after (c :: text) = code.after (c :: text) := by
  rw [after_cons, after_cons, next_of_isOutside h hc]

theorem blanked_of_isOutside (h : place.isOutside = true) (hc : isQuote c = false) :
    place.blanked (c :: text) = code.blanked (c :: text) := by
  rw [blanked_cons, blanked_cons, next_of_isOutside h hc, kept_of_isOutside h]
  rfl

theorem after_code_of_forall (h : ∀ c ∈ text, isCodeChar c = true) : code.after text = code := by
  induction text with
  | nil => rfl
  | cons c rest ih =>
    obtain ⟨hc, hrest⟩ := List.forall_mem_cons.mp h
    have hnext : code.next c = code := by
      simp only [isCodeChar, Bool.and_eq_true, Bool.not_eq_true', bne_iff_ne] at hc
      simp [nextInCode, hc.1, hc.2]
    rw [after_cons, hnext, ih hrest]

/-! ## The inside of literals -/

/-- A text that a scan passes without leaving its place, and of which nothing is left. -/
structure StaysIn (place : Place) (text : List Char) : Prop where
  after_eq : place.after text = place
  blanked_eq : place.blanked text = []

theorem staysIn_nil (place : Place) : place.StaysIn [] :=
  ⟨rfl, rfl⟩

theorem StaysIn.append (htext : place.StaysIn text) (hrest : place.StaysIn rest) :
    place.StaysIn (text ++ rest) where
  after_eq := by rw [after_append, htext.after_eq, hrest.after_eq]
  blanked_eq := by rw [blanked_append, htext.after_eq, htext.blanked_eq, hrest.blanked_eq]; rfl

theorem staysIn_flatMap {f : Char → List Char} (h : ∀ c ∈ text, place.StaysIn (f c)) :
    place.StaysIn (text.flatMap f) := by
  induction text with
  | nil => exact staysIn_nil place
  | cons c rest ih =>
    obtain ⟨hc, hrest⟩ := List.forall_mem_cons.mp h
    rw [List.flatMap_cons]
    exact hc.append (ih hrest)

/-- A character that has no meaning of its own inside of a literal with a quote. -/
def isContentChar (quote c : Char) : Bool :=
  c != quote && c != '\\' && !isLineEnd c

theorem staysIn_short_of_forall (h : ∀ c ∈ text, isContentChar quote c = true) :
    (short quote false).StaysIn text := by
  have hone (c : Char) (hc : isContentChar quote c = true) : (short quote false).StaysIn [c] := by
    simp only [isContentChar, Bool.and_eq_true, bne_iff_ne, Bool.not_eq_true'] at hc
    obtain ⟨⟨hquote, hbackslash⟩, hline⟩ := hc
    constructor
    · simp [after_cons, after_nil, nextInShort, hquote, hbackslash, hline]
    · simp [blanked_cons, blanked_nil, hquote]
  have hflat : text.flatMap (fun c ↦ [c]) = text := List.flatMap_singleton' text
  rw [← hflat]
  exact staysIn_flatMap fun c hc ↦ hone c (h c hc)

/-- A backslash and the character behind it stay inside, with plain content after them. -/
theorem staysIn_short_escape (hquote : quote ≠ '\\') (c : Char)
    (h : ∀ d ∈ text, isContentChar quote d = true) :
    (short quote false).StaysIn ('\\' :: c :: text) := by
  have hescape : (short quote false).StaysIn ['\\', c] := by
    constructor
    · simp [after_cons, after_nil, nextInShort, hquote.symm]
    · simp [blanked_cons, blanked_nil, nextInShort, hquote.symm]
  exact hescape.append (staysIn_short_of_forall h)

/-- A literal with content that stays inside closes, and its quotes are left. -/
theorem after_literal (hquote : isQuote quote = true)
    (hcontent : (short quote false).StaysIn text) (hhead : text.head? ≠ some quote) :
    (code.after (quote :: text ++ [quote])).isOutside = true ∧
      code.blanked (quote :: text ++ [quote]) = [quote, quote] := by
  have hopening : code.next quote = opening quote false := by
    rw [next_code, nextInCode, if_pos hquote]
  have hfirst : code.kept quote = [quote] := rfl
  rw [List.cons_append, after_cons, blanked_cons, hopening, hfirst]
  cases text with
  | nil => simp [after_cons, after_nil, blanked_cons, blanked_nil, isOutside, hquote]
  | cons c rest =>
    have hne : (c == quote) = false := by simpa using hhead
    have hnext : (opening quote false).next c = (short quote false).next c := by
      simp only [next_opening, next_short, hne, Bool.false_eq_true, if_false]
    have hkept : (opening quote false).kept c = (short quote false).kept c := rfl
    have hafter : (opening quote false).after (c :: rest) = short quote false := by
      rw [after_cons, hnext, ← after_cons, hcontent.after_eq]
    have hblanked : (opening quote false).blanked (c :: rest) = [] := by
      rw [blanked_cons, hnext, hkept]
      exact hcontent.blanked_eq
    rw [after_append, blanked_append, hafter, hblanked]
    simp [after_cons, after_nil, nextInShort, blanked_cons, blanked_nil, isOutside]

/-! ## Free text -/

theorem staysIn_docstringChars (text : List Char) :
    (long '"' false 0).StaysIn (docstringChars text) := by
  refine staysIn_flatMap fun c _ ↦ ?_
  rw [docstringChar]
  split
  · constructor <;> rfl
  · next hbackslash =>
    split
    · constructor <;> rfl
    · next hquote =>
      constructor
      · simp [after_cons, after_nil, nextInLong, hquote, hbackslash]
      · simp [blanked_cons, blanked_nil]

theorem isContentChar_of_mem_hexFixed (hquote : isQuote quote = true) {width n : Nat}
    (h : c ∈ hexFixed width n) : isContentChar quote c = true := by
  have hdigit : ∀ m < 16, isContentChar '"' (hexDigit m) = true ∧
      isContentChar '\'' (hexDigit m) = true := by decide
  induction width generalizing n with
  | zero => simp [hexFixed] at h
  | succ width ih =>
    rw [hexFixed, List.mem_append, List.mem_singleton] at h
    rcases h with h | rfl
    · exact ih h
    · have hbound : n % 16 < 16 := Nat.mod_lt n (by decide)
      rw [isQuote, Bool.or_eq_true, beq_iff_eq, beq_iff_eq] at hquote
      rcases hquote with rfl | rfl
      · exact (hdigit _ hbound).1
      · exact (hdigit _ hbound).2

theorem head?_flatMap_ne {f : Char → List Char} (h : ∀ c ∈ text, (f c).head? ≠ some quote) :
    (text.flatMap f).head? ≠ some quote := by
  induction text with
  | nil => simp
  | cons c rest ih =>
    obtain ⟨hc, hrest⟩ := List.forall_mem_cons.mp h
    rw [List.flatMap_cons, List.head?_append]
    cases hhead : (f c).head? with
    | none => exact ih hrest
    | some d => exact fun heq ↦ hc (hhead.trans heq)

/-- The characters of a quoted literal stay inside it. -/
theorem staysIn_quotedChar (c : Char) :
    (short '"' false).StaysIn (quotedChar c) ∧ (quotedChar c).head? ≠ some '"' := by
  have hescape (d : Char) : (short '"' false).StaysIn ['\\', d] ∧
      ['\\', d].head? ≠ some '"' :=
    ⟨staysIn_short_escape (by decide) d (by simp), by simp⟩
  have hunit (unit : Nat) : (short '"' false).StaysIn (unitEscape unit) :=
    staysIn_short_escape (by decide) 'u' fun _ ↦ isContentChar_of_mem_hexFixed rfl
  unfold quotedChar
  split_ifs with h1 h2 h3 h4 h5 h6 h7 h8
  · exact hescape _
  · exact hescape _
  · exact hescape _
  · exact hescape _
  · exact hescape _
  · exact hescape _
  · exact hescape _
  · rw [pointEscape]
    split
    · exact ⟨hunit _, by simp [unitEscape]⟩
    · exact ⟨(hunit _).append (hunit _), by simp [unitEscape]⟩
  · refine ⟨staysIn_short_of_forall fun d hd ↦ ?_, by simpa using h1⟩
    rw [List.mem_singleton.mp hd]
    simp_all [isContentChar, isLineEnd]

theorem after_quotedAsciiChars (text : List Char) :
    (code.after (quotedAsciiChars text)).isOutside = true ∧
      code.blanked (quotedAsciiChars text) = ['"', '"'] :=
  after_literal rfl (staysIn_flatMap fun c _ ↦ (staysIn_quotedChar c).1)
    (head?_flatMap_ne fun c _ ↦ (staysIn_quotedChar c).2)

/-- The characters of a literal stay inside it. -/
theorem staysIn_literalChar (hquote : isQuote quote = true) (c : Char) :
    (short quote false).StaysIn (literalChar quote c) ∧
      (literalChar quote c).head? ≠ some quote := by
  have hbackslash : quote ≠ '\\' := by
    rintro rfl
    cases hquote
  have hescape (d : Char) : (short quote false).StaysIn ['\\', d] ∧
      ['\\', d].head? ≠ some quote :=
    ⟨staysIn_short_escape hbackslash d (by simp), by simpa using hbackslash.symm⟩
  have hcode (d : Char) (width n : Nat) :
      (short quote false).StaysIn ('\\' :: d :: hexFixed width n) ∧
        ('\\' :: d :: hexFixed width n).head? ≠ some quote :=
    ⟨staysIn_short_escape hbackslash d fun _ ↦ isContentChar_of_mem_hexFixed hquote,
      by simpa using hbackslash.symm⟩
  unfold literalChar
  split_ifs with h1 h2 h3 h4 h5
  · exact hescape _
  · exact hescape _
  · exact hescape _
  · exact hescape _
  · rw [Bool.or_eq_true, not_or, beq_iff_eq, beq_iff_eq] at h1
    refine ⟨staysIn_short_of_forall fun d hd ↦ ?_, by simpa using h1.1⟩
    rw [List.mem_singleton.mp hd]
    simp_all [isContentChar, isLineEnd]
  · rw [codeEscape]
    split_ifs
    · exact hcode _ _ _
    · exact hcode _ _ _
    · exact hcode _ _ _

theorem isQuote_literalQuote (text : List Char) : isQuote (literalQuote text) = true := by
  rw [literalQuote]
  split <;> rfl

theorem after_literalChars (text : List Char) :
    (code.after (literalChars text)).isOutside = true ∧
      code.blanked (literalChars text) = [literalQuote text, literalQuote text] :=
  have hquote := isQuote_literalQuote text
  after_literal hquote (staysIn_flatMap fun c _ ↦ (staysIn_literalChar hquote c).1)
    (head?_flatMap_ne fun c _ ↦ (staysIn_literalChar hquote c).2)

theorem isOutside_after_literalChars (text : List Char) :
    (code.after (literalChars text)).isOutside = true :=
  (after_literalChars text).1

end Place

/-- A text whose literals are blanked. -/
def blankLiterals (text : String) : String :=
  String.ofList (Place.code.blanked text.toList)

/-- A text of which every literal ends. -/
def IsClosed (text : String) : Prop :=
  (Place.code.after text.toList).isOutside = true

instance (text : String) : Decidable (IsClosed text) :=
  inferInstanceAs (Decidable (_ = true))

example : blankLiterals "f(\"a\\\"b\", '', \"\"\"c\"d\"\"\")" = "f(\"\", '', \"\"\"\"\"\")" := by
  decide

end ApiCompiler.Text
