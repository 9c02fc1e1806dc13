import ApiCompiler.Proofs.Model.Shadow

/-!
# Names of fields

Whatever the properties of a model are called, each of them gets a field that generated code can
use, and no two of them share one. A property that is an identifier keeps its characters, up to the
few that may stand in an identifier but in no word; any other property gets a name of small ASCII
characters. The search for a free name always ends.

The attributes and prefixes that the base class keeps for itself are looked for in the property, not
in the name of the field. So a field may have them after all: where a character that stands in no
word has become an underscore, and where underscores have been appended to the name `model`.
-/

namespace ApiCompiler

/-! ## Characters of identifiers -/

namespace Text

/-- Whether no range meets one of the others. -/
def Ranges.areApart (ranges others : Ranges) : Bool :=
  ranges.all fun range ↦ others.all fun other ↦ Nat.blt range.2 other.1 || Nat.blt other.2 range.1

theorem Ranges.contains_of_areApart {ranges others : Ranges} (h : ranges.areApart others = true)
    {code : Nat} (hcode : ranges.contains code = true) : others.contains code = false := by
  rw [Bool.eq_false_iff]
  intro hother
  obtain ⟨range, hrange, hlow, hhigh⟩ := Ranges.contains_iff.mp hcode
  obtain ⟨other, hmem, hlow', hhigh'⟩ := Ranges.contains_iff.mp hother
  have hapart := List.all_eq_true.mp (List.all_eq_true.mp h range hrange) other hmem
  simp only [Bool.or_eq_true, Nat.blt_eq] at hapart
  omega

/-- No digit of any script begins an identifier. -/
theorem isAnyDigit_of_isIdentifierStart {c : Char} (h : isIdentifierStart c = true) :
    isAnyDigit c = false := by
  by_cases hascii : c.toNat < 128
  · have hclass := forall_ascii (p := fun c ↦ !isIdentifierStart c || !isAnyDigit c)
      (by decide) hascii
    simpa [h] using hclass
  · rw [isIdentifierStart, if_neg hascii] at h
    have hdecimal : identifierStartRanges.areApart decimalRanges = true := by decide +kernel
    have hother : identifierStartRanges.areApart otherDigitRanges = true := by decide +kernel
    have hnone : isDecimal c = decimalRanges.contains c.toNat := by
      rw [isDecimal, decimalValue?, if_neg hascii, Option.isSome_map, List.isSome_find?]
      rfl
    rw [isAnyDigit, hnone, Ranges.contains_of_areApart hdecimal h,
      Ranges.contains_of_areApart hother h, Bool.or_self]

end Text

namespace Naming

/-- What stands for a character of an identifier in a word is one too. -/
theorem isIdentifierChars_wordChars {text : List Char} (h : Text.isIdentifierChars text = true) :
    Text.isIdentifierChars (wordChars text) = true := by
  have hmark : Text.isIdentifierStart '_' = true ∧ Text.isIdentifierContinue '_' = true := by decide
  cases text with
  | nil => exact h
  | cons c rest =>
    rw [Text.isIdentifierChars, Bool.and_eq_true, List.all_eq_true] at h
    rw [wordChars, List.map_cons, Text.isIdentifierChars, Bool.and_eq_true, List.all_map,
      List.all_eq_true]
    constructor
    · split
      · exact h.1
      · exact hmark.1
    · intro d hd
      rw [Function.comp_apply]
      split
      · exact h.2 d hd
      · exact hmark.2

/-- No underscore is put in front of an identifier. -/
theorem identifierStem_of_isIdentifierChars {text : List Char}
    (h : Text.isIdentifierChars text = true) : identifierStem text = wordChars text := by
  have hword := isIdentifierChars_wordChars h
  rw [identifierStem]
  cases hchars : wordChars text with
  | nil =>
    rw [hchars] at hword
    cases hword
  | cons c rest =>
    rw [hchars, Text.isIdentifierChars, Bool.and_eq_true] at hword
    simp only [Text.isAnyDigit_of_isIdentifierStart hword.1, Bool.false_eq_true, if_false]

theorem underscored_zero (stem : String) : underscored stem 0 = stem := by
  simp [underscored]

/-- The search stops at the stem itself exactly where that is free. -/
theorem IsFirstFree.eq_stem_iff {taken : String → Prop} {stem name : String}
    (h : IsFirstFree taken (underscored stem) name) : name = stem ↔ ¬taken stem := by
  constructor
  · rintro rfl
    exact h.not_taken
  · intro hfree
    refine h.unique ⟨0, (underscored_zero stem).symm, hfree, ?_⟩
    exact fun i hi ↦ absurd hi (Nat.not_lt_zero i)

end Naming

/-! ## Names for any properties -/

theorem Naming.IsUsable.of_subset {reserved others : List String} {name : String}
    (h : IsUsable reserved name) (hsubset : others ⊆ reserved) : IsUsable others name :=
  ⟨h.isIdentifier, h.not_keyword, fun hmem ↦ h.not_reserved (hsubset hmem)⟩

namespace Model

open Naming (IsFirstFree IsUsable underscored)

/-- The identifier that the field of a property is named after. -/
def nameSource (property : String) : String :=
  if isPlain property then property else derivedName property

/-- The names that are reserved for the field of a property where some are taken. -/
def reservedFor (taken : List String) (property : String) : List String :=
  if isPlain property then taken else taken ++ baseAttributes

/-- A text with underscores for the characters that stand in no word. -/
def spelled (text : String) : String :=
  String.ofList (Naming.wordChars text.toList)

theorem spelled_toList (text : String) : (spelled text).toList = Naming.wordChars text.toList :=
  String.toList_ofList

theorem subset_reservedFor (taken : List String) (property : String) :
    taken ⊆ reservedFor taken property := by
  unfold reservedFor
  split
  · exact List.Subset.refl taken
  · exact List.subset_append_left taken baseAttributes

theorem fieldName_eq (taken : List String) (property : String) :
    fieldName taken property =
      Naming.identifier (nameSource property) (reservedFor taken property) := by
  unfold fieldName nameSource reservedFor
  split <;> rfl

/-- A derived name is made of characters of snake-case names, and does not begin as the names do
that the base class keeps for itself. -/
theorem derivedName_spec (property : String) :
    (∀ c ∈ (derivedName property).toList, Naming.IsSnakeChar c) ∧
      beginsReserved (derivedName property).toList = false := by
  have hfield : ∀ c ∈ "field_".toList, Naming.IsSnakeChar c := by
    have hall : "field_".toList.all (fun c ↦ Naming.isSnakePart c || c == '_') = true := by decide
    intro c hc
    simpa [Naming.IsSnakeChar] using List.all_eq_true.mp hall c hc
  have hclear (chars : List Char) (h : ∀ c ∈ chars, Naming.IsSnakeChar c) :
      let name := if beginsReserved chars || (chars.head?.map Text.isAnyDigit).getD false then
        String.ofList ("field_".toList ++ chars) else String.ofList chars
      (∀ c ∈ name.toList, Naming.IsSnakeChar c) ∧ beginsReserved name.toList = false := by
    dsimp only
    split
    · rw [String.toList_ofList]
      exact ⟨List.forall_mem_append.mpr ⟨hfield, h⟩, rfl⟩
    · next hkept =>
      rw [Bool.or_eq_true, not_or, Bool.not_eq_true] at hkept
      rw [String.toList_ofList]
      exact ⟨h, hkept.1⟩
  apply hclear
  split
  · exact fun c hc ↦ hfield c (List.mem_append_left ['_'] hc)
  · exact fun c hc ↦ Naming.isSnakeChar_of_mem ((List.dropWhile_sublist _).subset hc)

/-- The field of a property is named after an identifier. -/
theorem isIdentifier_nameSource (property : String) :
    Text.isIdentifier (nameSource property) = true := by
  unfold nameSource
  split
  · next hplain =>
    simp only [isPlain, Bool.and_eq_true] at hplain
    exact hplain.1.1.1
  · obtain ⟨c, rest, hchars, hc⟩ := exists_derivedName_toList property
    have hsnake := (derivedName_spec property).1
    rw [hchars] at hsnake
    rw [Text.isIdentifier, hchars, Text.isIdentifierChars, Bool.and_eq_true, List.all_eq_true]
    constructor
    · apply Text.isIdentifierStart_of_ascii (Text.toNat_lt_of_isLower hc)
      have halpha : c.isAlpha = true := Bool.or_eq_true_iff.mpr (.inr hc)
      rw [halpha, Bool.true_or]
    · intro d hd
      exact Naming.isIdentifierContinue_of_isSnakeChar (hsnake d (List.mem_cons_of_mem c hd))

theorem identifierStem_nameSource (property : String) :
    String.ofList (Naming.identifierStem (nameSource property).toList) =
      spelled (nameSource property) := by
  rw [spelled, Naming.identifierStem_of_isIdentifierChars (isIdentifier_nameSource property)]

/-- The search for the field of a property starts from the spelling of its source. -/
theorem fieldName_isFirstFree (taken : List String) (property : String) :
    IsFirstFree (· ∈ Naming.keywords ++ reservedFor taken property)
      (underscored (spelled (nameSource property))) (fieldName taken property) := by
  rw [fieldName_eq, ← identifierStem_nameSource]
  exact Naming.identifier_isFirstFree _ _

theorem fieldName_isUsable (taken : List String) (property : String) :
    IsUsable taken (fieldName taken property) := by
  rw [fieldName_eq]
  refine IsUsable.of_subset (Naming.identifier_isUsable _ ?_) (subset_reservedFor taken property)
  rw [Naming.identifierStem_of_isIdentifierChars (isIdentifier_nameSource property)]
  exact Naming.isIdentifierChars_wordChars (isIdentifier_nameSource property)

/-- Fields for all properties of a model, in order. Each of them is a usable name, the first one
that the search meets which is no word of the language, not reserved and no earlier field, and no
two properties share one. -/
structure AreFieldsOf (properties reserved : List String) (fields : Named String) : Prop where
  names_eq : fields.names = properties
  isUsable : ∀ name ∈ fields.map Prod.snd, IsUsable reserved name
  nodup : (fields.map Prod.snd).Nodup
  isFirstFree : ∀ before property name after, fields = before ++ (property, name) :: after →
    IsFirstFree
      (fun other ↦ other ∈ Naming.keywords ++ reservedFor reserved property ∨
        other ∈ before.map Prod.snd)
      (underscored (spelled (nameSource property))) name

theorem isUsable_of_mem_fieldNames {properties reserved : List String} {name : String}
    (h : name ∈ (fieldNames properties reserved).map Prod.snd) : IsUsable reserved name := by
  rw [fieldNames, fieldNamesFrom_eq_assigned] at h
  obtain ⟨taken, property, hsubset, rfl⟩ := Naming.exists_choose_of_mem_assigned h
  exact (fieldName_isUsable taken property).of_subset hsubset

theorem isFirstFree_of_fieldNamesFrom {properties taken : List String} {before after : Named String}
    {property name : String}
    (h : fieldNamesFrom taken properties = before ++ (property, name) :: after) :
    IsFirstFree
      (fun other ↦ other ∈ Naming.keywords ++ reservedFor taken property ∨
        other ∈ before.map Prod.snd)
      (underscored (spelled (nameSource property))) name := by
  induction properties generalizing taken before with
  | nil => simp [fieldNamesFrom] at h
  | cons first rest ih =>
    rw [fieldNamesFrom] at h
    cases before with
    | nil =>
      obtain ⟨hentry, -⟩ := List.cons_eq_cons.mp h
      cases hentry
      simpa using fieldName_isFirstFree taken property
    | cons entry more =>
      obtain ⟨rfl, hrest⟩ := List.cons_eq_cons.mp h
      obtain ⟨count, hname, hfree, hbefore⟩ := ih hrest
      have hsame (other : String) :
          (other ∈ Naming.keywords ++ reservedFor (fieldName taken first :: taken) property ∨
              other ∈ more.map Prod.snd) ↔
            (other ∈ Naming.keywords ++ reservedFor taken property ∨
              other ∈ ((first, fieldName taken first) :: more).map Prod.snd) := by
        unfold reservedFor
        split <;> simp [or_assoc, or_left_comm]
      refine ⟨count, hname, ?_, ?_⟩
      · exact mt (hsame name).mpr hfree
      · exact fun i hi ↦ (hsame _).mp (hbefore i hi)

/-- Whatever the properties of a model and the reserved names are, each property gets a field that
can be used, and no other property gets the same one. -/
theorem fieldNames_areFieldsOf (properties reserved : List String) :
    AreFieldsOf properties reserved (fieldNames properties reserved) where
  names_eq := names_fieldNames properties reserved
  isUsable _ hname := isUsable_of_mem_fieldNames hname
  nodup := fieldNames_nodup properties reserved
  isFirstFree _ _ _ _ hfields := isFirstFree_of_fieldNamesFrom hfields

/-! ## Names that the base class keeps for itself -/

theorem append_replicate_eq_iff {word : List Char} (hword : word.getLast? ≠ some '_')
    (text : List Char) (count : Nat) :
    text ++ List.replicate count '_' = word ↔ text = word ∧ count = 0 := by
  constructor
  · intro h
    cases count with
    | zero => exact ⟨by rwa [List.replicate_zero, List.append_nil] at h, rfl⟩
    | succ rest =>
      rw [List.replicate_succ', ← List.append_assoc] at h
      rw [← h, List.getLast?_concat] at hword
      exact absurd rfl hword
  · rintro ⟨rfl, rfl⟩
    rw [List.replicate_zero, List.append_nil]

/-- With underscores behind it a text begins with the prefix of the base class where it begins so
without them, and where only the underscore of the prefix is missing. -/
theorem beginsReserved_append_iff (text : List Char) (count : Nat) :
    beginsReserved (text ++ List.replicate count '_') = true ↔
      beginsReserved text = true ∨ text = "model".toList ∧ 0 < count := by
  have hword : "model".toList.getLast? ≠ some '_' := by decide
  have hmark : "model_".toList = "model".toList ++ ['_'] := by decide
  induction count with
  | zero => simp
  | succ rest ih =>
    rw [beginsReserved, List.isPrefixOf_iff_prefix] at ih ⊢
    rw [List.replicate_succ', ← List.append_assoc]
    calc
      _ ↔ "model_".toList = text ++ List.replicate rest '_' ++ ['_'] ∨
          "model_".toList <+: text ++ List.replicate rest '_' := List.prefix_concat_iff
      _ ↔ (text = "model".toList ∧ rest = 0) ∨
          (beginsReserved text = true ∨ text = "model".toList ∧ 0 < rest) := by
        apply or_congr _ ih
        rw [hmark, List.append_cancel_right_eq, eq_comm, append_replicate_eq_iff hword]
      _ ↔ _ := by
        rcases Nat.eq_zero_or_pos rest with hrest | hrest
        · simp [hrest, or_comm]
        · simp [hrest, hrest.ne']

section Field

variable {taken : List String} {property : String}

theorem spelled_nameSource_of_isPlain (h : isPlain property = true) :
    spelled (nameSource property) = spelled property := by
  rw [nameSource, if_pos h]

theorem spelled_nameSource_of_not_isPlain (h : ¬isPlain property = true) :
    spelled (nameSource property) = derivedName property := by
  rw [nameSource, if_neg h, spelled,
    Naming.wordChars_of_isSnakeChar (derivedName_spec property).1, String.ofList_toList]

/-- The field of a property is the spelling of its source, with underscores behind it where that is
not free. -/
theorem exists_fieldName_toList (taken : List String) (property : String) :
    ∃ count,
      (fieldName taken property).toList =
          (spelled (nameSource property)).toList ++ List.replicate count '_' ∧
        (0 < count ↔
          spelled (nameSource property) ∈ Naming.keywords ++ reservedFor taken property) := by
  obtain ⟨count, hname, hfree, hbefore⟩ := fieldName_isFirstFree taken property
  refine ⟨count, by simp [hname, underscored], ?_, ?_⟩
  · intro hcount
    have htaken := hbefore 0 hcount
    rwa [Naming.underscored_zero] at htaken
  · intro htaken
    apply Nat.pos_of_ne_zero
    rintro rfl
    rw [hname, Naming.underscored_zero] at hfree
    exact hfree htaken

/-- A field begins with an underscore where its property begins with a character that stands in no
word. -/
theorem head?_fieldName_iff :
    (fieldName taken property).toList.head? = some '_' ↔
      isPlain property = true ∧ (spelled property).toList.head? = some '_' := by
  obtain ⟨count, hname, -⟩ := exists_fieldName_toList taken property
  have hidentifier := Naming.isIdentifierChars_wordChars (isIdentifier_nameSource property)
  rw [← spelled_toList] at hidentifier
  have hne : (spelled (nameSource property)).toList ≠ [] := by
    intro hnil
    rw [hnil] at hidentifier
    cases hidentifier
  rw [hname, List.head?_append_of_ne_nil _ hne]
  by_cases hplain : isPlain property = true
  · rw [spelled_nameSource_of_isPlain hplain, and_iff_right hplain]
  · obtain ⟨c, rest, hchars, hc⟩ := exists_derivedName_toList property
    rw [spelled_nameSource_of_not_isPlain hplain, hchars, List.head?_cons]
    refine iff_of_false ?_ fun h ↦ hplain h.1
    rintro ⟨rfl⟩
    exact absurd hc (by decide)

theorem mem_reservedFor_model : "model" ∈ Naming.keywords ++ reservedFor taken property ↔
    "model" ∈ taken := by
  have hkeywords : "model" ∉ Naming.keywords := by decide
  have hbase : "model" ∉ baseAttributes := by decide
  unfold reservedFor
  split <;> simp [hkeywords, hbase]

/-- A field begins with the prefix of the base class where its property does when it is spelled as
a word, and where it is named after `model` and that name is taken. -/
theorem beginsReserved_fieldName_iff :
    beginsReserved (fieldName taken property).toList = true ↔
      isPlain property = true ∧ beginsReserved (spelled property).toList = true ∨
        spelled (nameSource property) = "model" ∧ "model" ∈ taken := by
  obtain ⟨count, hname, hcount⟩ := exists_fieldName_toList taken property
  have hsource : beginsReserved (spelled (nameSource property)).toList = true ↔
      isPlain property = true ∧ beginsReserved (spelled property).toList = true := by
    by_cases hplain : isPlain property = true
    · rw [spelled_nameSource_of_isPlain hplain, and_iff_right hplain]
    · rw [spelled_nameSource_of_not_isPlain hplain, (derivedName_spec property).2]
      simp [hplain]
  rw [hname, beginsReserved_append_iff, hsource, hcount, String.toList_inj]
  apply or_congr Iff.rfl
  apply and_congr_right
  intro hmodel
  rw [hmodel, mem_reservedFor_model]

/-- A field is an attribute of the base class where its property is one when it is spelled as a
word, and that name is free. -/
theorem fieldName_mem_baseAttributes_iff :
    fieldName taken property ∈ baseAttributes ↔
      isPlain property = true ∧ spelled property ∈ baseAttributes ∧ spelled property ∉ taken := by
  have hends : ∀ name ∈ baseAttributes, name.toList.getLast? ≠ some '_' := by decide
  have hkeywords : ∀ name ∈ baseAttributes, name ∉ Naming.keywords := by decide
  have hfree := (fieldName_isFirstFree taken property).not_taken
  rw [List.mem_append, not_or] at hfree
  by_cases hplain : isPlain property = true
  · have heq := (fieldName_isFirstFree taken property).eq_stem_iff
    rw [reservedFor, if_pos hplain] at hfree
    rw [spelled_nameSource_of_isPlain hplain, reservedFor, if_pos hplain, List.mem_append,
      not_or] at heq
    rw [and_iff_right hplain]
    constructor
    · intro hmem
      obtain ⟨count, hname, -⟩ := exists_fieldName_toList taken property
      have hstem := (append_replicate_eq_iff (hends _ hmem) _ count).mp hname.symm
      rw [String.toList_inj, spelled_nameSource_of_isPlain hplain] at hstem
      rw [hstem.1]
      exact ⟨hmem, hfree.2⟩
    · rintro ⟨hmem, hnew⟩
      rw [heq.mpr ⟨hkeywords _ hmem, hnew⟩]
      exact hmem
  · rw [reservedFor, if_neg hplain] at hfree
    refine iff_of_false ?_ fun h ↦ hplain h.1
    exact fun hmem ↦ hfree.2 (List.mem_append_right taken hmem)

theorem fieldName_eq_model_iff :
    fieldName taken property = "model" ↔
      spelled (nameSource property) = "model" ∧ "model" ∉ taken := by
  have hword : "model".toList.getLast? ≠ some '_' := by decide
  obtain ⟨count, hname, hcount⟩ := exists_fieldName_toList taken property
  rw [← String.toList_inj, hname, append_replicate_eq_iff hword, String.toList_inj]
  apply and_congr_right
  intro hmodel
  rw [hmodel, mem_reservedFor_model] at hcount
  rw [← hcount, Nat.pos_iff_ne_zero, not_not]

end Field

/-- How many of some properties have a field that is named after `model`. -/
def modelCount (properties : List String) : Nat :=
  properties.countP fun property ↦ spelled (nameSource property) = "model"

/-- Which names of the base class the fields of a model have. Two ways lead to one: a property that
is an identifier may be spelled so as a word, though it is not itself, and `model` gets underscores
where it is taken, by a reserved name or by another property. -/
structure MeetBase (properties reserved names : List String) : Prop where
  head?_iff : (∃ name ∈ names, name.toList.head? = some '_') ↔
    ∃ property ∈ properties, isPlain property = true ∧
      (spelled property).toList.head? = some '_'
  beginsReserved_iff : (∃ name ∈ names, beginsReserved name.toList = true) ↔
    (∃ property ∈ properties, isPlain property = true ∧
        beginsReserved (spelled property).toList = true) ∨
      1 < modelCount properties ∨ "model" ∈ reserved ∧ 0 < modelCount properties
  mem_baseAttributes_iff : (∃ name ∈ names, name ∈ baseAttributes) ↔
    ∃ property ∈ properties, isPlain property = true ∧
      spelled property ∈ baseAttributes ∧ spelled property ∉ reserved

/-- One more property in front. -/
theorem MeetBase.cons {property : String} {rest taken names : List String}
    (h : MeetBase rest (fieldName taken property :: taken) names) :
    MeetBase (property :: rest) taken (fieldName taken property :: names) where
  head?_iff := by
    simp only [List.exists_mem_cons_iff]
    rw [head?_fieldName_iff, h.head?_iff]
  beginsReserved_iff := by
    have hname : fieldName taken property = "model" ↔ _ := fieldName_eq_model_iff
    simp only [List.exists_mem_cons_iff]
    rw [beginsReserved_fieldName_iff, h.beginsReserved_iff, List.mem_cons]
    by_cases hmodel : spelled (nameSource property) = "model"
    · have hcount : modelCount (property :: rest) = modelCount rest + 1 :=
        List.countP_cons_of_pos (by simpa using hmodel)
      by_cases htaken : "model" ∈ taken
      · simp [hcount, hmodel, htaken]
      · have hsome : 1 < modelCount rest ∨ 0 < modelCount rest ↔ 0 < modelCount rest := by omega
        simp [hcount, hmodel, htaken, hname.mpr, hsome, or_assoc]
    · have hcount : modelCount (property :: rest) = modelCount rest :=
        List.countP_cons_of_neg (by simpa using hmodel)
      have hne : "model" ≠ fieldName taken property := fun heq ↦ hmodel (hname.mp heq.symm).1
      simp [hcount, hmodel, hne, or_assoc]
  mem_baseAttributes_iff := by
    simp only [List.exists_mem_cons_iff]
    rw [h.mem_baseAttributes_iff, ← fieldName_mem_baseAttributes_iff]
    by_cases hfirst : fieldName taken property ∈ baseAttributes
    · simp only [hfirst, true_or]
    · apply or_congr_right
      apply exists_congr
      intro other
      apply and_congr_right'
      apply and_congr_right'
      apply and_congr_right
      intro hother
      have hne : spelled other ≠ fieldName taken property := fun heq ↦ hfirst (heq ▸ hother)
      rw [List.mem_cons, or_iff_right hne]

/-- The fields of a model have a name of the base class exactly where one of the two ways leads
there. -/
theorem fieldNames_meetBase (properties reserved : List String) :
    MeetBase properties reserved ((fieldNames properties reserved).map Prod.snd) := by
  rw [fieldNames]
  induction properties generalizing reserved with
  | nil =>
    constructor <;> simp [fieldNamesFrom, modelCount]
  | cons property rest ih =>
    rw [fieldNamesFrom, List.map_cons]
    exact (ih _).cons

/-- Four properties whose fields are called `model`, `model_`, `_` and `schema_json`. -/
theorem fieldNames_meetBase_of_marks :
    let names := (fieldNames ["model", "model-", "℘", "schema\u0301json"] []).map Prod.snd
    MeetBase ["model", "model-", "℘", "schema\u0301json"] [] names ∧
      (∃ name ∈ names, name.toList.head? = some '_') ∧
      (∃ name ∈ names, beginsReserved name.toList = true) ∧
      ∃ name ∈ names, name ∈ baseAttributes := by
  have hmeet := fieldNames_meetBase ["model", "model-", "℘", "schema\u0301json"] []
  refine ⟨hmeet, hmeet.head?_iff.mpr ?_, hmeet.beginsReserved_iff.mpr ?_,
    hmeet.mem_baseAttributes_iff.mpr ?_⟩
  · exact ⟨"℘", by decide +kernel⟩
  · exact .inr (by decide +kernel)
  · exact ⟨"schema\u0301json", by decide +kernel⟩

end Model

end ApiCompiler
