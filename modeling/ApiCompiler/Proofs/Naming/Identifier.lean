import ApiCompiler.Naming.Identifier
import ApiCompiler.Naming.Procedure
import ApiCompiler.Proofs.Naming.Snake
import Mathlib.Data.Finset.Card
import Mathlib.Data.List.Infix

/-!
# Fresh names and identifiers

A search for a fresh name goes through numbered candidates until it meets one that is not taken. It
has no bound of its own, so it ends only if the candidates do not run out. Here the candidates are
pairwise distinct and the taken names are finitely many: the bounded searches of the compiler stop
at the same candidate as the unbounded ones.

The search for an identifier appends underscores to a stem until the name is no reserved word and
not reserved by its surroundings; it always ends. From a snake-case name it gives a name that
generated code can use. Numbers at the end of a text stay apart: two texts that differ in such a
number only never share an identifier, whatever the search appends to either of them.

From any other text the search keeps the word characters and decides by digits whether an underscore
goes in front. What an identifier may hold is decided by other classes of characters: they have no
superscripts, circled digits and fractions, which are word characters, and a few letters may not
stand in front. The name that is found is an identifier exactly when no such character stands in the
text at such a place, so that a text in ASCII always has a usable identifier.
-/

namespace ApiCompiler.Naming

/-! ## The search for a fresh name -/

/-- A name at which the unbounded search through numbered candidates stops: it is free, and every
candidate before it is taken. -/
def IsFirstFree (taken : String → Prop) (candidate : Nat → String) (name : String) : Prop :=
  ∃ count, name = candidate count ∧ ¬ taken name ∧ ∀ i < count, taken (candidate i)

theorem IsFirstFree.not_taken {taken : String → Prop} {candidate : Nat → String} {name : String}
    (h : IsFirstFree taken candidate name) : ¬ taken name := by
  obtain ⟨_, _, hfree, _⟩ := h
  exact hfree

/-- Where one candidate below the bound is free, the search stops at the first free one. -/
theorem leastFree_spec {isTaken : Nat → Bool} {bound i : Nat} (hi : i < bound)
    (hfree : isTaken i = false) :
    isTaken (leastFree isTaken bound) = false ∧
      ∀ j < leastFree isTaken bound, isTaken j = true := by
  obtain ⟨k, hk⟩ : ∃ k, (List.range bound).find? (fun i ↦ !isTaken i) = some k := by
    rw [← Option.isSome_iff_exists, List.find?_isSome]
    exact ⟨i, List.mem_range.mpr hi, by simp [hfree]⟩
  have hleast : leastFree isTaken bound = k := by simp [leastFree, hk]
  rw [List.find?_range_eq_some] at hk
  obtain ⟨hfound, _, hbefore⟩ := hk
  rw [hleast]
  exact ⟨by simpa using hfound, fun j hj ↦ by simpa using hbefore j hj⟩

/-- Distinct candidates, one more than there are taken names, are not all taken. -/
theorem exists_lt_not_mem {candidate : Nat → String} (hinj : Function.Injective candidate)
    (taken : List String) : ∃ i < taken.length + 1, candidate i ∉ taken := by
  by_contra hall
  push Not at hall
  have hmaps : ∀ i ∈ Finset.range (taken.length + 1), candidate i ∈ taken.toFinset := fun i hi ↦
    List.mem_toFinset.mpr (hall i (Finset.mem_range.mp hi))
  have hcard := Finset.card_le_card_of_injOn candidate hmaps (hinj.injOn)
  have hdistinct := List.toFinset_card_le taken
  rw [Finset.card_range] at hcard
  omega

theorem firstFree_isFirstFree {candidate : Nat → String} (hinj : Function.Injective candidate)
    (taken : List String) : IsFirstFree (· ∈ taken) candidate (firstFree taken candidate) := by
  obtain ⟨i, hi, hfree⟩ := exists_lt_not_mem hinj taken
  have hspec := @leastFree_spec (fun i ↦ taken.contains (candidate i)) _ _ hi (by simpa using hfree)
  exact ⟨_, rfl, by simpa [firstFree] using hspec.1, fun j hj ↦ by simpa using hspec.2 j hj⟩

theorem firstFree_not_mem {candidate : Nat → String} (hinj : Function.Injective candidate)
    (taken : List String) : firstFree taken candidate ∉ taken :=
  (firstFree_isFirstFree hinj taken).not_taken

/-! ## The two kinds of candidates -/

theorem length_toList_underscored (base : String) (count : Nat) :
    (underscored base count).toList.length = base.toList.length + count := by
  simp [underscored]

theorem underscored_injective (base : String) : Function.Injective (underscored base) := by
  intro i j h
  have hlength := congrArg (fun name ↦ name.toList.length) h
  simp only [length_toList_underscored] at hlength
  omega

theorem toDigits_injective : Function.Injective (Nat.toDigits 10) := by
  intro m n h
  rw [← Nat.ofDigitChars_ten_toDigits (n := m), h, Nat.ofDigitChars_ten_toDigits]

theorem numbered_succ_toList (base separator : String) (i : Nat) :
    (numbered base separator (i + 1)).toList =
      base.toList ++ separator.toList ++ Nat.toDigits 10 (i + 2) := by
  simp [numbered, Nat.toString_eq_repr, Nat.toList_repr]

theorem numbered_injective (base separator : String) :
    Function.Injective (numbered base separator) := by
  have hlonger (i : Nat) : numbered base separator 0 ≠ numbered base separator (i + 1) := by
    intro h
    have hchars := congrArg String.toList h
    rw [numbered_succ_toList, List.append_assoc] at hchars
    have hnil := List.self_eq_append_right.mp hchars
    exact Nat.toDigits_ne_nil (List.append_eq_nil_iff.mp hnil).2
  intro i j h
  cases i with
  | zero =>
    cases j with
    | zero => rfl
    | succ j => exact absurd h (hlonger j)
  | succ i =>
    cases j with
    | zero => exact absurd h.symm (hlonger i)
    | succ j =>
      have hchars := congrArg String.toList h
      rw [numbered_succ_toList, numbered_succ_toList] at hchars
      have hnumber := toDigits_injective (List.append_cancel_left hchars)
      omega

/-! ## Usable names -/

/-- A name that generated code can use: an identifier that is no reserved word of the language and
none of the names reserved by its surroundings. -/
structure IsUsable (reserved : List String) (name : String) : Prop where
  isIdentifier : Text.isIdentifier name = true
  not_keyword : isKeyword name = false
  not_reserved : name ∉ reserved

/-! ## The search for an identifier -/

/-- The unbounded search for an identifier ends where the bounded one does. -/
theorem identifier_isFirstFree (text : String) (reserved : List String) :
    IsFirstFree (· ∈ keywords ++ reserved)
      (underscored (String.ofList (identifierStem text.toList))) (identifier text reserved) :=
  firstFree_isFirstFree (underscored_injective _) _

theorem exists_identifier_toList (text : String) (reserved : List String) :
    ∃ count, (identifier text reserved).toList =
      identifierStem text.toList ++ List.replicate count '_' := by
  obtain ⟨count, hname, _⟩ := identifier_isFirstFree text reserved
  exact ⟨count, by simp [hname, underscored]⟩

theorem identifier_not_mem (text : String) (reserved : List String) :
    identifier text reserved ∉ keywords ++ reserved :=
  (identifier_isFirstFree text reserved).not_taken

/-- The underscores that the search appends keep an identifier. -/
theorem identifier_isUsable {text : String} (reserved : List String)
    (hstem : Text.isIdentifierChars (identifierStem text.toList) = true) :
    IsUsable reserved (identifier text reserved) := by
  obtain ⟨count, hchars⟩ := exists_identifier_toList text reserved
  have hfree := identifier_not_mem text reserved
  rw [List.mem_append, not_or] at hfree
  refine ⟨?_, by simpa [isKeyword] using hfree.1, hfree.2⟩
  rw [Text.isIdentifier, hchars]
  refine Text.isIdentifierChars_append hstem fun c hc ↦ ?_
  rw [List.eq_of_mem_replicate hc]
  decide

/-! ## Stems of snake-case names -/

theorem toNat_lt_of_isSnakeChar {c : Char} (h : IsSnakeChar c) : c.toNat < 128 := by
  rcases h with h | rfl
  · rw [isSnakePart, Bool.or_eq_true] at h
    rcases h with h | h
    · exact Text.toNat_lt_of_isLower h
    · exact Text.toNat_lt_of_isDigit h
  · decide

theorem isAlphanum_of_isSnakeChar {c : Char} (h : IsSnakeChar c) :
    (c.isAlphanum || c == '_') = true := by
  rcases h with h | rfl
  · rw [isSnakePart, Bool.or_eq_true] at h
    rcases h with h | h <;> simp [Text.isAlphanum_eq, h]
  · decide

theorem isIdentifierContinue_of_isSnakeChar {c : Char} (h : IsSnakeChar c) :
    Text.isIdentifierContinue c = true :=
  Text.isIdentifierContinue_of_ascii (toNat_lt_of_isSnakeChar h) (isAlphanum_of_isSnakeChar h)

theorem wordChars_of_isAlphanum {text : List Char}
    (h : ∀ c ∈ text, (c.isAlphanum || c == '_') = true) : wordChars text = text := by
  refine (List.map_congr_left fun c hc ↦ ?_).trans (List.map_id text)
  have hword := Text.isWordChar_of_ascii (Text.toNat_lt_of_isAlphanum (h c hc)) (h c hc)
  simp [hword]

theorem wordChars_of_isSnakeChar {text : List Char} (h : ∀ c ∈ text, IsSnakeChar c) :
    wordChars text = text :=
  wordChars_of_isAlphanum fun c hc ↦ isAlphanum_of_isSnakeChar (h c hc)

/-- The stem of ASCII letters, digits and underscores is an identifier: a digit in front gets an
underscore. -/
theorem isIdentifierChars_identifierStem {text : List Char}
    (h : ∀ c ∈ text, (c.isAlphanum || c == '_') = true) :
    Text.isIdentifierChars (identifierStem text) = true := by
  rw [identifierStem, wordChars_of_isAlphanum h]
  cases text with
  | nil => decide
  | cons c rest =>
    have hc := h c (by simp)
    have hascii := Text.toNat_lt_of_isAlphanum hc
    have hrest : (rest.all Text.isIdentifierContinue) = true := List.all_eq_true.mpr fun d hd ↦ by
      have hword := h d (List.mem_cons_of_mem c hd)
      exact Text.isIdentifierContinue_of_ascii (Text.toNat_lt_of_isAlphanum hword) hword
    simp only [Text.isAnyDigit_of_ascii hascii]
    cases hdigit : c.isDigit with
    | true =>
      have hstart : Text.isIdentifierStart '_' = true := by decide
      simp only [if_true, Text.isIdentifierChars, hstart, List.all_cons,
        Text.isIdentifierContinue_of_ascii hascii hc, hrest, Bool.and_self]
    | false =>
      have hstart := Text.isIdentifierStart_of_ascii hascii
        (by simpa [Char.isAlphanum, hdigit] using hc)
      simp only [Bool.false_eq_true, if_false, Text.isIdentifierChars, hstart, hrest, Bool.and_self]

theorem isSnakeChar_of_mem_snakeIdentifier {text : String} {c : Char}
    (h : c ∈ (snakeIdentifier text).toList) : IsSnakeChar c := by
  rw [snakeIdentifier, String.toList_ofList] at h
  exact isSnakeChar_of_mem h

/-- The identifier of any snake-case name can be used. -/
theorem identifier_snakeIdentifier_isUsable (text : String) (reserved : List String) :
    IsUsable reserved (identifier (snakeIdentifier text) reserved) :=
  identifier_isUsable reserved
    (isIdentifierChars_identifierStem fun _ hc ↦
      isAlphanum_of_isSnakeChar (isSnakeChar_of_mem_snakeIdentifier hc))

/-- An identifier of a snake-case name holds characters of such names only. -/
theorem isSnakeChar_of_mem_identifier {text : String} {reserved : List String} {c : Char}
    (h : c ∈ (identifier (snakeIdentifier text) reserved).toList) : IsSnakeChar c := by
  obtain ⟨count, hchars⟩ := exists_identifier_toList (snakeIdentifier text) reserved
  have hsnake : ∀ c ∈ (snakeIdentifier text).toList, IsSnakeChar c :=
    fun _ ↦ isSnakeChar_of_mem_snakeIdentifier
  rw [hchars, List.mem_append, identifierStem, wordChars_of_isSnakeChar hsnake] at h
  rcases h with h | h
  · split at h
    · exact .inr (by simpa using h)
    · next first rest heq =>
      rw [heq] at hsnake
      split at h
      · rcases List.mem_cons.mp h with rfl | h
        · exact .inr rfl
        · exact hsnake c h
      · exact hsnake c h
  · exact .inr (List.eq_of_mem_replicate h)

/-- A free word that does not end in an underscore is the identifier of the texts with this stem. -/
theorem identifier_eq_iff_stem {text word : String} {reserved : List String}
    (hfree : word ∉ keywords ++ reserved) (hlast : word.toList.getLast? ≠ some '_') :
    identifier text reserved = word ↔ identifierStem text.toList = word.toList := by
  constructor
  · intro h
    obtain ⟨count, hchars⟩ := exists_identifier_toList text reserved
    rw [h] at hchars
    cases count with
    | zero => rw [hchars, List.replicate_zero, List.append_nil]
    | succ count =>
      rw [hchars, List.replicate_succ', ← List.append_assoc, List.getLast?_concat] at hlast
      exact absurd rfl hlast
  · intro hstem
    obtain ⟨i, hname, _, hleast⟩ := identifier_isFirstFree text reserved
    have hbase : underscored (String.ofList (identifierStem text.toList)) 0 = word := by
      rw [hstem]
      simp [underscored]
    cases i with
    | zero => exact hname.trans hbase
    | succ i => exact absurd (hbase ▸ hleast 0 (Nat.succ_pos i)) hfree

/-- A word without underscores that is free is the identifier of itself and of no other snake-case
name. -/
theorem identifier_eq_iff {text word : String} {reserved : List String}
    (htext : ∀ c ∈ text.toList, IsSnakeChar c) (hfree : word ∉ keywords ++ reserved)
    (hplain : '_' ∉ word.toList) (hstem : identifierStem word.toList = word.toList) :
    identifier text reserved = word ↔ text = word := by
  rw [identifier_eq_iff_stem hfree fun hlast ↦ hplain (List.mem_of_getLast? hlast)]
  constructor
  · intro hchars
    rw [identifierStem, wordChars_of_isSnakeChar htext] at hchars
    -- an underscore in front would be an underscore of the word
    split at hchars
    · simp [← hchars] at hplain
    · next first rest hcons =>
      split at hchars
      · simp [← hchars] at hplain
      · rw [← String.toList_inj, hcons, hchars]
  · rintro rfl
    exact hstem

theorem isSnakeChar_of_mem_numbered {base : String} (h : ∀ c ∈ base.toList, IsSnakeChar c)
    (count : Nat) : ∀ c ∈ (numbered base "_" count).toList, IsSnakeChar c := by
  cases count with
  | zero => exact h
  | succ i =>
    intro c hc
    rw [numbered_succ_toList, List.mem_append, List.mem_append] at hc
    rcases hc with (hc | hc) | hc
    · exact h c hc
    · exact .inr (by simpa using hc)
    · have hdigit := Nat.isDigit_of_mem_toDigits (by decide) (by decide) hc
      exact .inl (by simp [isSnakePart, hdigit])

theorem functionOf_isUsable (procedure : String) :
    IsUsable functionReserved (functionOf procedure) :=
  identifier_snakeIdentifier_isUsable procedure functionReserved

theorem namespaceOf_isUsable (resource : String) :
    IsUsable clientReserved (namespaceOf resource) :=
  identifier_snakeIdentifier_isUsable resource clientReserved

/-! ## Numbers at the end of a text -/

/-- Digits after a text stay at the end of its stem. -/
theorem exists_identifierStem_append (text : List Char) :
    ∃ stem, ∀ digits ≠ [], (∀ c ∈ digits, c.isDigit = true) →
      identifierStem (text ++ digits) = stem ++ digits := by
  have hwords (digits : List Char) (hdigits : ∀ c ∈ digits, c.isDigit = true) :
      wordChars (text ++ digits) = wordChars text ++ digits := by
    have hkept : wordChars digits = digits := wordChars_of_isSnakeChar fun c hc ↦
      .inl (by simp [isSnakePart, hdigits c hc])
    calc
      wordChars (text ++ digits) = wordChars text ++ wordChars digits := List.map_append
      _ = wordChars text ++ digits := by rw [hkept]
  cases hstem : wordChars text with
  | nil =>
    refine ⟨['_'], fun digits hne hdigits ↦ ?_⟩
    rw [identifierStem, hwords digits hdigits, hstem, List.nil_append]
    cases digits with
    | nil => exact absurd rfl hne
    | cons d rest =>
      have hd := hdigits d (by simp)
      simp [Text.isAnyDigit_of_ascii (Text.toNat_lt_of_isDigit hd), hd]
  | cons c rest =>
    refine ⟨if Text.isAnyDigit c then '_' :: c :: rest else c :: rest, fun digits _ hdigits ↦ ?_⟩
    rw [identifierStem, hwords digits hdigits, hstem]
    simp only [List.cons_append]
    split <;> rfl

/-- Digits that stand before underscores can be read off. -/
theorem takeWhile_isDigit_append {digits : List Char} (hdigits : ∀ c ∈ digits, c.isDigit = true)
    (count : Nat) : (digits ++ List.replicate count '_').takeWhile Char.isDigit = digits := by
  rw [List.takeWhile_append_of_pos hdigits]
  cases count with
  | zero => simp
  | succ count => simp [List.replicate_succ]

/-- The functions of a name with different numbers after it are different. -/
theorem functionOf_numbered_injective (base : String) :
    Function.Injective fun i ↦ functionOf (numbered base "" (i + 1)) := by
  intro i j h
  have hnumber (i : Nat) : ∀ c ∈ Nat.toDigits 10 (i + 2), c.isDigit = true := fun c hc ↦
    Nat.isDigit_of_mem_toDigits (by decide) (by decide) hc
  obtain ⟨snake, hsnake⟩ := exists_snakeIdentifierChars_append base.toList
  obtain ⟨stem, hstem⟩ := exists_identifierStem_append snake
  have hfunction (i : Nat) : ∃ count, (functionOf (numbered base "" (i + 1))).toList =
      stem ++ (Nat.toDigits 10 (i + 2) ++ List.replicate count '_') := by
    obtain ⟨count, hcount⟩ :=
      exists_identifier_toList (snakeIdentifier (numbered base "" (i + 1))) functionReserved
    refine ⟨count, ?_⟩
    rw [functionOf, hcount, snakeIdentifier, numbered_succ_toList, String.toList_ofList]
    simp only [String.toList_empty, List.append_nil]
    rw [hsnake _ Nat.toDigits_ne_nil (hnumber i), hstem _ Nat.toDigits_ne_nil (hnumber i),
      List.append_assoc]
  obtain ⟨m, hm⟩ := hfunction i
  obtain ⟨n, hn⟩ := hfunction j
  have hchars : stem ++ (Nat.toDigits 10 (i + 2) ++ List.replicate m '_') =
      stem ++ (Nat.toDigits 10 (j + 2) ++ List.replicate n '_') := by
    rw [← hm, ← hn]
    exact congrArg String.toList h
  have hdigits := congrArg (List.takeWhile Char.isDigit) (List.append_cancel_left hchars)
  rw [takeWhile_isDigit_append (hnumber i), takeWhile_isDigit_append (hnumber j)] at hdigits
  have hequal := toDigits_injective hdigits
  omega

/-- A usable name with a number after it is usable where no reserved name ends in a digit. -/
theorem IsUsable.numbered {reserved : List String} {base separator : String}
    (h : IsUsable reserved base)
    (hreserved : ∀ word ∈ reserved, (word.toList.getLast?.all fun c ↦ !c.isDigit) = true)
    (hseparator : ∀ c ∈ separator.toList, Text.isIdentifierContinue c = true) (count : Nat) :
    IsUsable reserved (numbered base separator count) := by
  cases count with
  | zero => exact h
  | succ i =>
    have hnumber : ∀ c ∈ Nat.toDigits 10 (i + 2), c.isDigit = true := fun c hc ↦
      Nat.isDigit_of_mem_toDigits (by decide) (by decide) hc
    have hlast : ∀ words : List String,
        (∀ word ∈ words, (word.toList.getLast?.all fun c ↦ !c.isDigit) = true) →
          Naming.numbered base separator (i + 1) ∉ words := by
      intro words hwords hmem
      have hend := hwords _ hmem
      rw [numbered_succ_toList, List.getLast?_append_of_ne_nil _ Nat.toDigits_ne_nil,
        List.getLast?_eq_some_getLast Nat.toDigits_ne_nil] at hend
      have hdigit := hnumber _ (List.getLast_mem Nat.toDigits_ne_nil)
      simp [hdigit] at hend
    refine ⟨?_, ?_, hlast reserved hreserved⟩
    · rw [Text.isIdentifier, numbered_succ_toList]
      refine Text.isIdentifierChars_append
        (Text.isIdentifierChars_append h.isIdentifier hseparator) fun c hc ↦ ?_
      exact isIdentifierContinue_of_isSnakeChar (.inl (by simp [isSnakePart, hnumber c hc]))
    · simpa [isKeyword] using hlast keywords (by decide)

end ApiCompiler.Naming

namespace ApiCompiler

/-! ## Texts with usable identifiers -/

namespace Text

theorem isIdentifierChars_cons (c : Char) (rest : List Char) :
    isIdentifierChars (c :: rest) = true ↔
      isIdentifierStart c = true ∧ ∀ d ∈ rest, isIdentifierContinue d = true := by
  rw [isIdentifierChars, Bool.and_eq_true, List.all_eq_true]

theorem isIdentifierChars_append_iff {text tail : List Char} (htext : text ≠ [])
    (htail : ∀ c ∈ tail, isIdentifierContinue c = true) :
    isIdentifierChars (text ++ tail) = true ↔ isIdentifierChars text = true := by
  refine ⟨fun h ↦ ?_, fun h ↦ isIdentifierChars_append h htail⟩
  cases text with
  | nil => exact absurd rfl htext
  | cons c rest =>
    rw [List.cons_append, isIdentifierChars_cons] at h
    rw [isIdentifierChars_cons]
    exact ⟨h.1, fun d hd ↦ h.2 d (List.mem_append_left tail hd)⟩

end Text

namespace Naming

open Text (isWordChar isAnyDigit isIdentifierStart isIdentifierContinue isIdentifierChars)

/-- What may begin an identifier, once a digit has an underscore in front. -/
def mayLead (c : Char) : Bool :=
  if isAnyDigit c then isIdentifierContinue c else isIdentifierStart c

/-- A text whose word characters may all stand in an identifier at their places. -/
structure IsIdentifiable (text : List Char) : Prop where
  first : ∀ c ∈ text.head?, isWordChar c = true → mayLead c = true
  others : ∀ c ∈ text.tail, isWordChar c = true → isIdentifierContinue c = true

theorem forall_wordChars_iff {text : List Char} :
    (∀ c ∈ wordChars text, isIdentifierContinue c = true) ↔
      ∀ c ∈ text, isWordChar c = true → isIdentifierContinue c = true := by
  have hreplaced : isIdentifierContinue '_' = true := by decide
  rw [wordChars, List.forall_mem_map]
  refine forall₂_congr fun c _ ↦ ?_
  by_cases hc : isWordChar c = true
  · rw [if_pos hc, imp_iff_right hc]
  · rw [if_neg hc]
    exact iff_of_true hreplaced fun hword ↦ absurd hword hc

theorem identifierStem_ne_nil (text : List Char) : identifierStem text ≠ [] := by
  unfold identifierStem
  split
  · exact List.cons_ne_nil _ _
  · split <;> exact List.cons_ne_nil _ _

/-- The stem of a text is an identifier exactly when no character of the text stands in the way. -/
theorem isIdentifierChars_identifierStem_iff (text : List Char) :
    isIdentifierChars (identifierStem text) = true ↔ IsIdentifiable text := by
  have hunderscore : isIdentifierStart '_' = true := by decide
  cases text with
  | nil => exact iff_of_true (by decide) ⟨by simp, by simp⟩
  | cons c rest =>
    have hsplit : IsIdentifiable (c :: rest) ↔ (isWordChar c = true → mayLead c = true) ∧
        ∀ d ∈ wordChars rest, isIdentifierContinue d = true := by
      rw [forall_wordChars_iff]
      refine ⟨fun h ↦ ⟨h.first c rfl, h.others⟩, fun h ↦ ⟨fun d hd ↦ ?_, h.2⟩⟩
      obtain rfl : c = d := Option.some.inj hd
      exact h.1
    rw [hsplit, identifierStem, wordChars, List.map_cons, ← wordChars]
    by_cases hword : isWordChar c = true
    · rw [imp_iff_right hword, mayLead]
      simp only [if_pos hword]
      split
      · rw [Text.isIdentifierChars_cons, List.forall_mem_cons]
        exact and_iff_right hunderscore
      · exact Text.isIdentifierChars_cons c _
    · have hplain : isAnyDigit '_' = false := by decide
      simp only [if_neg hword, hplain, Bool.false_eq_true, if_false]
      rw [Text.isIdentifierChars_cons]
      exact and_congr_left' (iff_of_true hunderscore fun h ↦ absurd h hword)

theorem isIdentifiable_of_ascii {text : List Char} (h : ∀ c ∈ text, c.toNat < 128) :
    IsIdentifiable text := by
  have hword {c : Char} (hc : c.toNat < 128) (hc' : isWordChar c = true) :
      (c.isAlphanum || c == '_') = true := by
    simpa [isWordChar, Text.isAlphanumeric, hc] using hc'
  constructor
  · intro c hc hc'
    have hascii := h c (List.mem_of_mem_head? hc)
    rw [mayLead, Text.isAnyDigit_of_ascii hascii]
    split
    · exact Text.isIdentifierContinue_of_ascii hascii (hword hascii hc')
    · next hdigit =>
      exact Text.isIdentifierStart_of_ascii hascii
        (by simpa [Char.isAlphanum, hdigit] using hword hascii hc')
  · intro c hc hc'
    have hascii := h c (List.mem_of_mem_tail hc)
    exact Text.isIdentifierContinue_of_ascii hascii (hword hascii hc')

theorem isIdentifier_identifier_iff (text : String) (reserved : List String) :
    Text.isIdentifier (identifier text reserved) = true ↔ IsIdentifiable text.toList := by
  obtain ⟨count, hchars⟩ := exists_identifier_toList text reserved
  have hunderscores : ∀ c ∈ List.replicate count '_', isIdentifierContinue c = true := by
    intro c hc
    rw [List.eq_of_mem_replicate hc]
    decide
  rw [Text.isIdentifier, hchars,
    Text.isIdentifierChars_append_iff (identifierStem_ne_nil _) hunderscores,
    isIdentifierChars_identifierStem_iff]

/-- The search for an identifier ends, at a name that is neither a reserved word nor a reserved
name. It is an identifier exactly when each word character of the text may stand at its place. -/
theorem identifier_isUsable_iff (text : String) (reserved : List String) :
    IsFirstFree (· ∈ keywords ++ reserved)
        (underscored (String.ofList (identifierStem text.toList))) (identifier text reserved) ∧
      isKeyword (identifier text reserved) = false ∧
      identifier text reserved ∉ reserved ∧
      (IsUsable reserved (identifier text reserved) ↔ IsIdentifiable text.toList) := by
  have hfree := identifier_not_mem text reserved
  rw [List.mem_append, not_or] at hfree
  have hkeyword : isKeyword (identifier text reserved) = false := by
    simpa [isKeyword] using hfree.1
  refine ⟨identifier_isFirstFree text reserved, hkeyword, hfree.2, ?_⟩
  rw [← isIdentifier_identifier_iff text reserved]
  exact ⟨IsUsable.isIdentifier, fun h ↦ ⟨h, hkeyword, hfree.2⟩⟩

/-- A superscript stays in the name and is no part of identifiers. -/
example : Text.isIdentifier (identifier "x\u00b2" []) = false := by decide +kernel

theorem identifier_isUsable_of_ascii {text : String} (reserved : List String)
    (h : ∀ c ∈ text.toList, c.toNat < 128) : IsUsable reserved (identifier text reserved) :=
  identifier_isUsable reserved
    ((isIdentifierChars_identifierStem_iff text.toList).mpr (isIdentifiable_of_ascii h))

end Naming

end ApiCompiler
