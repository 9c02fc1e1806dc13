import ApiCompiler.Naming.Spelling
import ApiCompiler.Proofs.Naming.Identifier

/-!
# Capital spellings of snake-case names

The spelling with capitals forgets underscores. In a snake-case name an underscore before a letter
leaves its mark, since that letter becomes a capital; one before a digit, before another underscore
or at the end does not. So two snake-case names have one spelling exactly when they agree up to the
underscores that leave no mark.
-/

namespace ApiCompiler.Naming

/-- The spelling with capitals, read from left to right; `start` tells that a word may start. -/
def pascalFrom : (start : Bool) → List Char → List Char
  | _, [] => []
  | start, c :: rest =>
    if isWordPart c then (if start then c.toUpper else c) :: pascalFrom false rest
    else pascalFrom true rest

theorem capitalized_append_singleton (word : List Char) (c : Char) :
    capitalized (word ++ [c]) =
      capitalized word ++ [if word.isEmpty then c.toUpper else c] := by
  cases word <;> simp [capitalized]

theorem flatMap_capitalized_pushWord (word : List Char) (words : List (List Char)) :
    (pushWord word words).flatMap capitalized =
      capitalized word.reverse ++ words.flatMap capitalized := by
  unfold pushWord
  cases word <;> simp [capitalized]

theorem flatMap_capitalized_wordsFrom (text word : List Char) :
    (wordsFrom word text).flatMap capitalized =
      capitalized word.reverse ++ pascalFrom word.isEmpty text := by
  induction text generalizing word with
  | nil =>
    rw [wordsFrom, flatMap_capitalized_pushWord, pascalFrom]
    simp
  | cons c rest ih =>
    rw [wordsFrom, pascalFrom]
    by_cases hc : isWordPart c = true
    · rw [if_pos hc, if_pos hc, ih, List.reverse_cons, capitalized_append_singleton]
      simp
    · rw [if_neg hc, if_neg hc, flatMap_capitalized_pushWord, ih]
      simp [capitalized]

theorem pascal_toList (text : String) : (pascal text).toList = pascalFrom true text.toList := by
  rw [pascal, String.toList_ofList, words, flatMap_capitalized_wordsFrom]
  simp [capitalized]

/-! ## Underscores that leave a mark -/

/-- A text without the underscores that stand before no letter. -/
def marked : List Char → List Char
  | [] => []
  | c :: rest =>
    if c = '_' ∧ rest.head?.any Char.isLower = false then marked rest else c :: marked rest

/-- A snake-case name as its spelling with capitals knows it: each word that starts with a letter
has an underscore before it, and there is no other underscore. -/
def letterMarked (name : String) : List Char :=
  marked ('_' :: name.toList)

/-- A spelling with capitals as a marked text: a capital is an underscore and its small letter. -/
def lettersMarked : List Char → List Char
  | [] => []
  | c :: rest =>
    if c.isUpper then '_' :: c.toLower :: lettersMarked rest else c :: lettersMarked rest

theorem isLower_or_isDigit_or_eq {c : Char} (h : IsSnakeChar c) :
    c.isLower = true ∨ c.isDigit = true ∨ c = '_' := by
  rw [IsSnakeChar, isSnakePart, Bool.or_eq_true] at h
  exact or_assoc.mp h

theorem ne_underscore {c : Char} (h : isSnakePart c = true) : c ≠ '_' := by
  rintro rfl
  exact absurd h (by decide)

theorem marked_cons {c : Char} (hc : c ≠ '_') (rest : List Char) :
    marked (c :: rest) = c :: marked rest := by
  rw [marked, if_neg fun h ↦ hc h.1]

theorem marked_letter {c : Char} (hc : c.isLower = true) (rest : List Char) :
    marked ('_' :: c :: rest) = '_' :: marked (c :: rest) := by
  rw [marked, if_neg]
  simp [hc]

theorem marked_digit {c : Char} (hc : c.isDigit = true) (rest : List Char) :
    marked ('_' :: c :: rest) = marked (c :: rest) := by
  rw [marked, if_pos]
  simp [Text.isLower_of_isDigit hc]

theorem marked_underscore (rest : List Char) :
    marked ('_' :: '_' :: rest) = marked ('_' :: rest) := by
  rw [marked, if_pos ⟨rfl, rfl⟩]

theorem pascalFrom_underscore (start : Bool) (rest : List Char) :
    pascalFrom start ('_' :: rest) = pascalFrom true rest := by
  rw [pascalFrom, if_neg (by decide)]

theorem pascalFrom_cons {c : Char} (hc : isSnakePart c = true) (start : Bool) (rest : List Char) :
    pascalFrom start (c :: rest) = (if start then c.toUpper else c) :: pascalFrom false rest := by
  have hword : isWordPart c = true := by
    rw [isSnakePart, Bool.or_eq_true] at hc
    rcases hc with hc | hc <;> simp [isWordPart, Text.isAlphanum_eq, hc]
  rw [pascalFrom, if_pos hword]

theorem lettersMarked_cons {c : Char} (hc : c.isUpper = false) (rest : List Char) :
    lettersMarked (c :: rest) = c :: lettersMarked rest := by
  rw [lettersMarked, hc]
  rfl

theorem lettersMarked_capital {c : Char} (hc : c.isLower = true) (rest : List Char) :
    lettersMarked (c.toUpper :: rest) = '_' :: c :: lettersMarked rest := by
  rw [lettersMarked, if_pos (Text.isUpper_toUpper_of_isLower hc),
    Text.toLower_toUpper_of_isLower hc]

/-- Reading the capitals of a snake-case text back gives the underscores that left a mark. -/
theorem lettersMarked_pascalFrom {text : List Char} (h : ∀ c ∈ text, IsSnakeChar c) :
    lettersMarked (pascalFrom false text) = marked text ∧
      lettersMarked (pascalFrom true text) = marked ('_' :: text) := by
  induction text with
  | nil => decide
  | cons c rest ih =>
    obtain ⟨hc, hrest⟩ := List.forall_mem_cons.mp h
    obtain ⟨hinside, hstart⟩ := ih hrest
    rcases isLower_or_isDigit_or_eq hc with hletter | hdigit | rfl
    · have hpart : isSnakePart c = true := by simp [isSnakePart, hletter]
      rw [pascalFrom_cons hpart, pascalFrom_cons hpart, if_neg Bool.false_ne_true, if_pos rfl,
        marked_letter hletter, marked_cons (ne_underscore hpart),
        lettersMarked_cons (Text.isUpper_of_isLower hletter), lettersMarked_capital hletter,
        hinside]
      exact ⟨rfl, rfl⟩
    · have hpart : isSnakePart c = true := by simp [isSnakePart, hdigit]
      rw [pascalFrom_cons hpart, pascalFrom_cons hpart, if_neg Bool.false_ne_true, if_pos rfl,
        Text.toUpper_of_isDigit hdigit, marked_digit hdigit, marked_cons (ne_underscore hpart),
        lettersMarked_cons (Text.isUpper_of_isDigit hdigit), hinside]
      exact ⟨rfl, rfl⟩
    · rw [pascalFrom_underscore, pascalFrom_underscore, marked_underscore]
      exact ⟨hstart, hstart⟩

/-- The underscores that leave no mark have no part in the spelling. -/
theorem pascalFrom_marked {text : List Char} (h : ∀ c ∈ text, IsSnakeChar c) :
    pascalFrom false (marked text) = pascalFrom false text ∧
      pascalFrom false (marked ('_' :: text)) = pascalFrom true text := by
  induction text with
  | nil => decide
  | cons c rest ih =>
    obtain ⟨hc, hrest⟩ := List.forall_mem_cons.mp h
    obtain ⟨hinside, hstart⟩ := ih hrest
    rcases isLower_or_isDigit_or_eq hc with hletter | hdigit | rfl
    · have hpart : isSnakePart c = true := by simp [isSnakePart, hletter]
      rw [marked_letter hletter, marked_cons (ne_underscore hpart), pascalFrom_underscore,
        pascalFrom_cons hpart, pascalFrom_cons hpart, pascalFrom_cons hpart, pascalFrom_cons hpart,
        hinside]
      exact ⟨rfl, rfl⟩
    · have hpart : isSnakePart c = true := by simp [isSnakePart, hdigit]
      rw [marked_digit hdigit, marked_cons (ne_underscore hpart), pascalFrom_cons hpart,
        pascalFrom_cons hpart, pascalFrom_cons hpart, hinside, Text.toUpper_of_isDigit hdigit]
      exact ⟨rfl, rfl⟩
    · rw [pascalFrom_underscore, marked_underscore, pascalFrom_underscore]
      exact ⟨hstart, hstart⟩

/-- Two snake-case names have one spelling with capitals exactly when they agree up to the
underscores that leave no mark. -/
theorem pascal_eq_iff {name other : String} (hname : ∀ c ∈ name.toList, IsSnakeChar c)
    (hother : ∀ c ∈ other.toList, IsSnakeChar c) :
    pascal name = pascal other ↔ letterMarked name = letterMarked other := by
  rw [← String.toList_inj, pascal_toList, pascal_toList, letterMarked, letterMarked]
  constructor
  · intro h
    rw [← (lettersMarked_pascalFrom hname).2, ← (lettersMarked_pascalFrom hother).2, h]
  · intro h
    rw [← (pascalFrom_marked hname).2, ← (pascalFrom_marked hother).2, h]

end ApiCompiler.Naming
