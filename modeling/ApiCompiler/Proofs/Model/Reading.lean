import ApiCompiler.Proofs.Model.Closed

/-!
# Reading annotations

An annotation is read from left to right. In front stands a word, which is an annotation of its own
or tells what is in the brackets behind it; any word without a meaning is an expression. Constraints
and listed values are read one by one, each up to the comma or the bracket that ends it. So an
annotation is read back from its text when its scalars are finite and its expressions are words.
-/

namespace ApiCompiler

open Text (isNameChar)

/-! ## Parts of a text -/

/-- What stands behind the start of a text. -/
def behind? (start : String) (input : List Char) : Option (List Char) :=
  if start.toList.isPrefixOf input then some (input.drop start.toList.length) else none

/-- What is read between an opening and a closing text, and what follows. -/
def readBetween {α : Type} (opening closing : String) (inner : List Char → Option (α × List Char))
    (input : List Char) : Option (α × List Char) :=
  (behind? opening input).bind fun rest ↦ (inner rest).bind fun (a, rest) ↦
    (behind? closing rest).map fun rest ↦ (a, rest)

/-- Items with a comma and a space between neighbours, and what follows them. -/
def readItems {α : Type} (item : List Char → Option (α × List Char)) :
    (fuel : Nat) → List Char → Option (List α × List Char)
  | 0, _ => none
  | fuel + 1, input =>
    (item input).bind fun (first, rest) ↦
      match behind? ", " rest with
      | none => some ([first], rest)
      | some rest => (readItems item fuel rest).map fun (others, rest) ↦ (first :: others, rest)

/-- A text that begins with what ends an item. -/
def EndsItem (rest : List Char) : Prop :=
  ∃ c more, rest = c :: more ∧ c ∈ [',', ')', ']']

variable {α : Type} {rest : List Char}

theorem behind?_append (start : String) (rest : List Char) :
    behind? start (start.toList ++ rest) = some rest := by
  simp [behind?]

theorem readBetween_append {opening closing : String}
    {inner : List Char → Option (α × List Char)} {body : List Char} {a : α}
    (h : inner (body ++ (closing.toList ++ rest)) = some (a, closing.toList ++ rest)) :
    readBetween opening closing inner
      (opening.toList ++ (body ++ (closing.toList ++ rest))) = some (a, rest) := by
  simp only [readBetween, behind?_append, Option.bind_some, h, Option.map_some]

theorem EndsItem.endsNumber (h : EndsItem rest) : EndsNumber rest := by
  obtain ⟨c, more, rfl, hc⟩ := h
  intro d hd
  obtain rfl : c = d := Option.some.inj hd
  simp only [List.mem_cons, List.not_mem_nil, or_false] at hc
  rcases hc with rfl | rfl | rfl <;> decide

/-- Items are read as they are written, if each of them is. -/
theorem readItems_intercalate {item : List Char → Option (α × List Char)} {text : α → String}
    {items : List α} (hne : items ≠ [])
    (hitem : ∀ a ∈ items, ∀ rest, EndsItem rest → item ((text a).toList ++ rest) = some (a, rest))
    (hrest : EndsItem rest) (hcomma : behind? ", " rest = none) {fuel : Nat}
    (hfuel : items.length ≤ fuel) :
    readItems item fuel ((", ".intercalate (items.map text)).toList ++ rest) =
      some (items, rest) := by
  induction items generalizing fuel with
  | nil => exact absurd rfl hne
  | cons a others ih =>
    obtain ⟨fuel, rfl⟩ := Nat.exists_eq_succ_of_ne_zero (Nat.ne_zero_of_lt hfuel)
    obtain ⟨ha, hothers⟩ := List.forall_mem_cons.mp hitem
    cases others with
    | nil =>
      rw [List.map_singleton, String.intercalate_singleton, readItems, ha rest hrest,
        Option.bind_some]
      simp only [hcomma]
    | cons b more =>
      have hmore := ih (List.cons_ne_nil b more) hothers (Nat.le_of_succ_le_succ hfuel)
      have hends : EndsItem (", ".toList ++
          ((", ".intercalate ((b :: more).map text)).toList ++ rest)) :=
        ⟨',', _, rfl, List.mem_cons_self ..⟩
      rw [List.map_cons, List.map_cons, String.intercalate_cons_cons, String.toList_append,
        String.toList_append, List.append_assoc, List.append_assoc, readItems,
        ← List.map_cons, ha _ hends, Option.bind_some]
      simp only [behind?_append, hmore, Option.map_some]

theorem length_le_length_intercalate (texts : List String) :
    texts.length ≤ (", ".intercalate texts).toList.length + 1 := by
  induction texts with
  | nil => exact Nat.zero_le _
  | cons first rest ih =>
    cases rest with
    | nil => simp
    | cons second others =>
      have hcomma : ", ".toList.length = 2 := rfl
      rw [String.intercalate_cons_cons, String.toList_append, String.toList_append,
        List.length_append, List.length_append, hcomma, List.length_cons]
      omega

/-! ## Constraints -/

/-- A constraint in front of a text, and what follows it. -/
def Constraint.read? (input : List Char) : Option (Constraint × List Char) :=
  (behind? "=" (input.dropWhile isNameChar)).bind fun rest ↦
    (Scalar.read? rest).map fun (value, rest) ↦
      (⟨String.ofList (input.takeWhile isNameChar), value⟩, rest)

theorem Constraint.read?_text {c : Constraint} (hkeyword : c.keyword ∈ constraintKeywords)
    (hfinite : c.value.isFinite = true) (hrest : EndsItem rest) :
    read? (c.text.toList ++ rest) = some (c, rest) := by
  have hkeywords : ∀ keyword ∈ constraintKeywords, keyword.toList.all isNameChar = true := by
    decide
  have hequals : ∀ d ∈ ("=".toList ++ (c.value.literal.toList ++ rest)).head?,
      isNameChar d = false := by
    intro d hd
    obtain rfl : '=' = d := Option.some.inj hd
    decide
  obtain ⟨htake, hdrop⟩ :=
    takeWhile_append_of_head (List.all_eq_true.mp (hkeywords _ hkeyword)) hequals
  rw [text, String.toList_append, String.toList_append, List.append_assoc, List.append_assoc,
    read?, hdrop, behind?_append, Option.bind_some, Scalar.read?_literal hfinite hrest.endsNumber,
    htake, String.ofList_toList]
  rfl

namespace TypeExpr

/-! ## Words -/

/-- A character of a word in an annotation: one of a name, or the point between two names. -/
def isWordChar (c : Char) : Bool :=
  isNameChar c || c == '.'

/-- The words that are annotations of their own. -/
def words : Named TypeExpr :=
  [("Any", any), ("str", string), ("int", integer), ("float", float), ("bool", boolean),
    ("datetime", dateTime)]

/-- An expression that is read as itself. -/
structure IsWord (expression : String) : Prop where
  isWordChar : ∀ c ∈ expression.toList, isWordChar c = true
  not_mem : expression ∉ moduleNames

/-- The values in the brackets of a choice, of which there may be none. -/
def readValues (fuel : Nat) (input : List Char) : Option (List Scalar × List Char) :=
  some ((readItems Scalar.read? fuel input).getD ([], input))

/-- What stands behind a word. -/
def readBehind (read : List Char → Option (TypeExpr × List Char)) (fuel : Nat) (word : String)
    (input : List Char) : Option (TypeExpr × List Char) :=
  if word = "list" then (readBetween "[" "]" read input).map (Prod.map list id)
  else if word = "Optional" then (readBetween "[" "]" read input).map (Prod.map optional id)
  else if word = "Literal" then
    (readBetween "[" "]" (readValues fuel) input).map (Prod.map choice id)
  else if word = "Annotated" then
    (behind? "[" input).bind fun rest ↦ (read rest).bind fun (base, rest) ↦
      (readBetween ", Field(" ")]" (readItems Constraint.read? fuel) rest).map
        (Prod.map (constrained base) id)
  else if word = "dict" then (behind? "[str, Any]" input).map fun rest ↦ (dictionary, rest)
  else some ((words.find? word).getD (named word), input)

/-- An annotation in front of a text, and what follows it. -/
def read? : (fuel : Nat) → List Char → Option (TypeExpr × List Char)
  | 0, _ => none
  | fuel + 1, input =>
    readBehind (read? fuel) fuel (String.ofList (input.takeWhile isWordChar))
      (input.dropWhile isWordChar)

/-- The annotation that is written by a text. -/
def parse? (text : String) : Option TypeExpr :=
  match read? (text.toList.length + 1) text.toList with
  | some (type, []) => some type
  | _ => none

/-- A text that no word goes on with. -/
def EndsWord (rest : List Char) : Prop :=
  ∀ c ∈ rest.head?, isWordChar c = false

theorem endsWord_cons {c : Char} (hc : isWordChar c = false) (rest : List Char) :
    EndsWord (c :: rest) := by
  intro d hd
  obtain rfl : c = d := Option.some.inj hd
  exact hc

theorem read?_word {word : String} (hword : ∀ c ∈ word.toList, isWordChar c = true)
    (hrest : EndsWord rest) (fuel : Nat) :
    read? (fuel + 1) (word.toList ++ rest) = readBehind (read? fuel) fuel word rest := by
  obtain ⟨htake, hdrop⟩ := takeWhile_append_of_head hword hrest
  rw [read?, htake, hdrop, String.ofList_toList]

/-- The annotations that are words of their own. -/
theorem read?_text_of_mem {type : TypeExpr}
    (h : type ∈ [any, string, integer, float, boolean, dateTime]) (hrest : EndsWord rest)
    (fuel : Nat) : read? (fuel + 1) (type.text.toList ++ rest) = some (type, rest) := by
  have hwords : ∀ type ∈ [any, string, integer, float, boolean, dateTime],
      type.text.toList.all isWordChar = true := by
    decide
  rw [read?_word (List.all_eq_true.mp (hwords _ h)) hrest]
  simp only [List.mem_cons, List.not_mem_nil, or_false] at h
  rcases h with rfl | rfl | rfl | rfl | rfl | rfl
  all_goals rfl

/-- A word with brackets behind it. -/
theorem read?_bracketed {word : String} {inner : List Char → Option (α × List Char)}
    {build : α → TypeExpr} {fuel : Nat} (hword : word.toList.all isWordChar = true)
    (hbehind : ∀ input, readBehind (read? fuel) fuel word input =
      (readBetween "[" "]" inner input).map (Prod.map build id))
    {body : List Char} {a : α}
    (hinner : inner (body ++ ("]".toList ++ rest)) = some (a, "]".toList ++ rest)) :
    read? (fuel + 1) (word.toList ++ ("[".toList ++ (body ++ ("]".toList ++ rest)))) =
      some (build a, rest) := by
  have hends : EndsWord ("[".toList ++ (body ++ ("]".toList ++ rest))) :=
    endsWord_cons (by decide) _
  rw [read?_word (List.all_eq_true.mp hword) hends, hbehind, readBetween_append hinner]
  rfl

theorem IsWord.read? {expression : String} (h : IsWord expression) (hrest : EndsWord rest)
    (fuel : Nat) :
    read? (fuel + 1) (expression.toList ++ rest) = some (named expression, rest) := by
  have hne {name : String} (hname : name ∈ moduleNames) : expression ≠ name := by
    rintro rfl
    exact h.not_mem hname
  have hfind : words.find? expression = none := by
    rw [Named.find?_eq_none_iff]
    intro hmem
    have hsubset : words.names ⊆ moduleNames := by decide
    exact h.not_mem (hsubset hmem)
  rw [read?_word h.isWordChar hrest, readBehind, if_neg (hne (by decide)),
    if_neg (hne (by decide)), if_neg (hne (by decide)), if_neg (hne (by decide)),
    if_neg (hne (by decide)), hfind, Option.getD_none]

/-- An expression that is a word does not show that it admits the absent value. -/
theorem IsWord.admitsNone {expression : String} (h : IsWord expression) :
    (named expression).admitsNone = false := by
  have hany : (expression == "Any") = false := by
    rw [beq_eq_false_iff_ne]
    rintro rfl
    exact h.not_mem (by decide)
  have hoptional : "Optional[".toList.isPrefixOf expression.toList = false := by
    rw [Bool.eq_false_iff]
    intro hprefix
    have hbracket : '[' ∈ "Optional[".toList := by decide
    have hmem := (List.isPrefixOf_iff_prefix.mp hprefix).subset hbracket
    exact absurd (h.isWordChar _ hmem) (by decide)
  rw [TypeExpr.admitsNone, hany, hoptional, Bool.or_false]

/-! ## Annotations -/

variable {type : TypeExpr} {fuel : Nat}

theorem readValues_intercalate {values : List Scalar} (hfinite : ∀ s ∈ values, s.isFinite = true)
    (hfuel : values.length ≤ fuel) :
    readValues fuel ((", ".intercalate (values.map Scalar.literal)).toList ++ ']' :: rest) =
      some (values, ']' :: rest) := by
  cases values with
  | nil =>
    have hnone : Scalar.read? (']' :: rest) = none := rfl
    have hitems : readItems Scalar.read? fuel (']' :: rest) = none := by
      cases fuel with
      | zero => rfl
      | succ fuel => rw [readItems, hnone, Option.bind_none]
    rw [List.map_nil, readValues]
    exact congrArg (fun read ↦ some (Option.getD read _)) hitems
  | cons s others =>
    rw [readValues, readItems_intercalate (List.cons_ne_nil s others)
      (fun s hs rest hrest ↦ Scalar.read?_literal (hfinite s hs) hrest.endsNumber)
      ⟨']', rest, rfl, by decide⟩ rfl hfuel, Option.getD_some]

theorem read?_dictionary (rest : List Char) (fuel : Nat) :
    read? (fuel + 1) (dictionary.text.toList ++ rest) = some (dictionary, rest) := by
  have hword : "dict".toList.all isWordChar = true := by decide
  have hends : EndsWord ("[str, Any]".toList ++ rest) := endsWord_cons (by decide) _
  have htext : dictionary.text.toList ++ rest =
      "dict".toList ++ ("[str, Any]".toList ++ rest) := rfl
  rw [htext, read?_word (List.all_eq_true.mp hword) hends, readBehind, if_neg (by decide),
    if_neg (by decide), if_neg (by decide), if_neg (by decide), if_pos rfl, behind?_append]
  rfl

theorem read?_choice {values : List Scalar} (hfinite : ∀ s ∈ values, s.isFinite = true)
    (hfuel : (choice values).text.toList.length ≤ fuel) :
    read? (fuel + 1) ((choice values).text.toList ++ rest) = some (choice values, rest) := by
  let joined := ", ".intercalate (values.map Scalar.literal)
  have hlength : values.length ≤ joined.toList.length + 1 := by
    rw [← List.length_map Scalar.literal]
    exact length_le_length_intercalate _
  have htotal : (choice values).text.toList.length = joined.toList.length + 9 := by
    simp [text, joined]
  have htext : (choice values).text.toList ++ rest =
      "Literal".toList ++ ("[".toList ++ (joined.toList ++ ("]".toList ++ rest))) := by
    simp [text, joined]
  have hvalues : readValues fuel (joined.toList ++ ("]".toList ++ rest)) =
      some (values, "]".toList ++ rest) :=
    readValues_intercalate hfinite (by omega)
  rw [htext]
  refine read?_bracketed (by decide) (fun input ↦ ?_) hvalues
  rw [readBehind, if_neg (by decide), if_neg (by decide), if_pos rfl]

theorem read?_constrained {base : TypeExpr} {constraints : List Constraint}
    (isBase : base ∈ [string, integer, float]) (ne_nil : constraints ≠ [])
    (keywords : ∀ c ∈ constraints, c.keyword ∈ constraintKeywords)
    (hfinite : ∀ c ∈ constraints, c.value.isFinite = true)
    (hfuel : (constrained base constraints).text.toList.length ≤ fuel) :
    read? (fuel + 1) ((constrained base constraints).text.toList ++ rest) =
      some (constrained base constraints, rest) := by
  let joined := ", ".intercalate (constraints.map Constraint.text)
  have hlength : constraints.length ≤ joined.toList.length + 1 := by
    rw [← List.length_map Constraint.text]
    exact length_le_length_intercalate _
  have htotal : (constrained base constraints).text.toList.length =
      base.text.toList.length + joined.toList.length + 20 := by
    simp [text, joined]
    omega
  let following := ", Field(".toList ++ (joined.toList ++ (")]".toList ++ rest))
  have htext : (constrained base constraints).text.toList ++ rest =
      "Annotated".toList ++ ("[".toList ++ (base.text.toList ++ following)) := by
    simp [text, joined, following]
  obtain ⟨fuel, rfl⟩ : ∃ less, fuel = less + 1 := ⟨fuel - 1, by omega⟩
  have hbase : read? (fuel + 1) (base.text.toList ++ following) = some (base, following) := by
    refine read?_text_of_mem ?_ (endsWord_cons (by decide) _) fuel
    simp only [List.mem_cons, List.not_mem_nil, or_false] at isBase ⊢
    exact .inr (isBase.imp_right (Or.imp_right .inl))
  have hitems : readItems Constraint.read? (fuel + 1) (joined.toList ++ (")]".toList ++ rest)) =
      some (constraints, ")]".toList ++ rest) := by
    refine readItems_intercalate ne_nil (fun c hc rest hrest ↦ ?_) ⟨')', _, rfl, by decide⟩ rfl
      (by omega)
    exact Constraint.read?_text (keywords c hc) (hfinite c hc) hrest
  have hfields : readBetween ", Field(" ")]" (readItems Constraint.read? (fuel + 1)) following =
      some (constraints, rest) :=
    readBetween_append hitems
  have hword : "Annotated".toList.all isWordChar = true := by decide
  have hends : EndsWord ("[".toList ++ (base.text.toList ++ following)) :=
    endsWord_cons (by decide) _
  rw [htext, read?_word (List.all_eq_true.mp hword) hends, readBehind, if_neg (by decide),
    if_neg (by decide), if_neg (by decide), if_pos rfl, behind?_append]
  simp only [Option.bind_some, hbase, hfields]
  rfl

/-- An annotation is read as it is written, whatever follows it. -/
theorem HasShape.read?_text (h : type.HasShape IsWord)
    (hfinite : ∀ s ∈ type.scalars, s.isFinite = true) (hrest : EndsWord rest)
    (hfuel : type.text.toList.length ≤ fuel) :
    TypeExpr.read? (fuel + 1) (type.text.toList ++ rest) = some (type, rest) := by
  have hclosing (rest : List Char) : EndsWord ("]".toList ++ rest) :=
    endsWord_cons (by decide) rest
  induction h generalizing fuel rest with
  | any | string | integer | float | boolean | dateTime =>
    exact read?_text_of_mem (by simp) hrest fuel
  | dictionary => exact read?_dictionary rest fuel
  | constrained base constraints isBase ne_nil keywords =>
    refine read?_constrained isBase ne_nil keywords (fun c hc ↦ hfinite _ ?_) hfuel
    exact List.mem_append_right _ (List.mem_map_of_mem hc)
  | choice values => exact read?_choice hfinite hfuel
  | @list items _ ih =>
    have htotal : (TypeExpr.list items).text.toList.length = items.text.toList.length + 6 := by
      simp [TypeExpr.text]
    have htext : (TypeExpr.list items).text.toList ++ rest =
        "list".toList ++ ("[".toList ++ (items.text.toList ++ ("]".toList ++ rest))) := by
      simp [TypeExpr.text]
    obtain ⟨fuel, rfl⟩ : ∃ less, fuel = less + 1 := ⟨fuel - 1, by omega⟩
    have hitems := @ih _ fuel hfinite (hclosing rest) (by omega)
    rw [htext]
    exact read?_bracketed (by decide) (fun input ↦ if_pos rfl) hitems
  | @optional inner _ ih =>
    have htotal : (TypeExpr.optional inner).text.toList.length =
        inner.text.toList.length + 10 := by
      simp [TypeExpr.text]
    have htext : (TypeExpr.optional inner).text.toList ++ rest =
        "Optional".toList ++ ("[".toList ++ (inner.text.toList ++ ("]".toList ++ rest))) := by
      simp [TypeExpr.text]
    obtain ⟨fuel, rfl⟩ : ∃ less, fuel = less + 1 := ⟨fuel - 1, by omega⟩
    have hinner := @ih _ fuel hfinite (hclosing rest) (by omega)
    rw [htext]
    refine read?_bracketed (by decide) (fun input ↦ ?_) hinner
    rw [readBehind, if_neg (by decide), if_pos rfl]
  | named h => exact h.read? hrest fuel

/-- An annotation with finite scalars and words for expressions is read back from its text. -/
theorem HasShape.parse?_text (h : type.HasShape IsWord)
    (hfinite : ∀ s ∈ type.scalars, s.isFinite = true) : parse? type.text = some type := by
  have hends : EndsWord [] := nofun
  have hread := h.read?_text hfinite hends (Nat.le_refl _)
  rw [List.append_nil] at hread
  rw [parse?, hread]

end TypeExpr

end ApiCompiler
