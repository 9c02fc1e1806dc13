import ApiCompiler.Proofs.Model.Annotation
import ApiCompiler.Proofs.Model.Clean
import ApiCompiler.Proofs.Value.Literal
import ApiCompiler.Schema.Resolve

/-!
# Closed annotations

An annotation is evaluated where its module stands, so every name in it has to be bound there. The
names are those of the module and of its models, the keywords of constraints, the truth values, and
whatever the expressions for components have. Literals add no name, with one exception: a number
that is not finite is written as a word, which does not mean that number either.
-/

namespace ApiCompiler

namespace Text

open Place

/-! ## Names outside of literals -/

/-- A character that a name may have. -/
def isNameChar (c : Char) : Bool :=
  isIdentifierStart c || isIdentifierContinue c

/-- The names in code without literals: its longest runs of such characters, as far as they begin
as an identifier does. -/
def namesIn (code : List Char) : List (List Char) :=
  (code.splitOnP fun c ↦ !isNameChar c).filter fun run ↦ run.head?.any isIdentifierStart

/-- The names in a text, outside of its literals. -/
def codeNames (text : String) : List String :=
  (namesIn (code.blanked text.toList)).map String.ofList

variable {text rest : List Char} {a b : String} {c : Char}

theorem namesIn_append_cons (text : List Char) (hc : isNameChar c = false) (rest : List Char) :
    namesIn (text ++ c :: rest) = namesIn text ++ namesIn rest := by
  have hsplit : (!isNameChar c) = true := by rw [hc, Bool.not_false]
  rw [namesIn, List.splitOnP_append_cons text rest hsplit, List.filter_append]
  rfl

theorem namesIn_cons (hc : isNameChar c = false) (rest : List Char) :
    namesIn (c :: rest) = namesIn rest :=
  namesIn_append_cons [] hc rest

theorem namesIn_nil : namesIn [] = [] :=
  rfl

theorem namesIn_eq_nil (h : text.any isNameChar = false) : namesIn text = [] := by
  induction text with
  | nil => exact namesIn_nil
  | cons c text ih =>
    rw [List.any_cons, Bool.or_eq_false_iff] at h
    rw [namesIn_cons h.1, ih h.2]

/-- No name goes on behind a text that begins with another character. -/
theorem namesIn_append_of_head (text : List Char) (hrest : rest.head?.any isNameChar = false) :
    namesIn (text ++ rest) = namesIn text ++ namesIn rest := by
  cases rest with
  | nil => rw [List.append_nil, namesIn_nil, List.append_nil]
  | cons c rest => rw [namesIn_append_cons text hrest, namesIn_cons hrest]

/-- Nor does one go on behind a text that ends in another character. -/
theorem namesIn_append_of_getLast (htext : text.getLast?.any isNameChar = false)
    (rest : List Char) : namesIn (text ++ rest) = namesIn text ++ namesIn rest := by
  cases hlast : text.getLast? with
  | none => rw [List.getLast?_eq_none_iff.mp hlast]; rfl
  | some c =>
    obtain ⟨start, rfl⟩ := List.getLast?_eq_some_iff.mp hlast
    have hc : isNameChar c = false := by rwa [hlast] at htext
    rw [List.append_assoc, List.singleton_append, namesIn_append_cons start hc,
      namesIn_append_cons start hc, namesIn_nil, List.append_nil]

/-- A run of characters of names is one name or none. -/
theorem namesIn_of_forall (h : ∀ c ∈ text, isNameChar c = true) :
    namesIn text = if text.head?.any isIdentifierStart then [text] else [] := by
  have hsingle : text.splitOnP (fun c ↦ !isNameChar c) = [text] :=
    List.splitOnP_eq_singleton fun c hc ↦ by rw [h c hc, Bool.not_true]
  rw [namesIn, hsingle, List.filter_singleton, Bool.cond_eq_ite]

theorem isNameChar_of_isDigit (h : c.isDigit = true) :
    isNameChar c = true ∧ isIdentifierStart c = false := by
  have hascii := toNat_lt_of_isDigit h
  have hclass := forall_ascii (p := fun c ↦ !c.isDigit || (isNameChar c && !isIdentifierStart c))
    (by decide) hascii
  simpa [h] using hclass

/-- A run that begins with a digit is none. -/
theorem namesIn_of_isDigit (hc : c.isDigit = true) (htext : ∀ d ∈ text, isNameChar d = true) :
    namesIn (c :: text) = [] := by
  obtain ⟨hname, hstart⟩ := isNameChar_of_isDigit hc
  rw [namesIn_of_forall (List.forall_mem_cons.mpr ⟨hname, htext⟩)]
  simp [hstart]

/-! ## Names in pieces of code -/

theorem IsPlain.blanked_code (h : IsPlain a) : code.blanked a.toList = a.toList := by
  have hkept : ∀ text : List Char, (∀ c ∈ text, isPlainChar c = true) →
      code.blanked text = text := by
    intro text htext
    induction text with
    | nil => rfl
    | cons c rest ih =>
      obtain ⟨hc, hrest⟩ := List.forall_mem_cons.mp htext
      simp only [isPlainChar, Bool.and_eq_true] at hc
      have hnext : code.after [c] = code :=
        after_code_of_forall (List.forall_mem_singleton.mpr hc.1.1)
      rw [blanked_cons, show code.next c = code from hnext, ih hrest]
      rfl
  exact hkept a.toList h

theorem eq_of_mem_kept {place : Place} {d : Char} (h : d ∈ place.kept c) : d = c := by
  cases place with
  | opening quote twice => cases twice <;> simp_all [kept]
  | short quote escaped => cases escaped <;> simp_all [kept]
  | long quote escaped closing => cases escaped <;> simp_all [kept]
  | _ => simpa [kept] using h

/-- Blanking only leaves characters out. -/
theorem mem_of_mem_blanked {place : Place} (h : c ∈ place.blanked text) : c ∈ text := by
  induction text generalizing place with
  | nil => exact h
  | cons d text ih =>
    rw [blanked_cons, List.mem_append] at h
    rcases h with h | h
    · rw [eq_of_mem_kept h]
      exact List.mem_cons_self ..
    · exact List.mem_cons_of_mem _ (ih h)

theorem codeNames_of_isPlain (h : IsPlain a) :
    codeNames a = (namesIn a.toList).map String.ofList := by
  rw [codeNames, h.blanked_code]

theorem isNameChar_of_isIdentifier (h : isIdentifier a = true) :
    ∀ c ∈ a.toList, isNameChar c = true := by
  obtain ⟨first, rest, hchars, hfirst, hrest⟩ := exists_cons_of_isIdentifier h
  rw [hchars]
  refine List.forall_mem_cons.mpr ⟨by rw [isNameChar, hfirst, Bool.true_or], fun c hc ↦ ?_⟩
  rw [isNameChar, hrest c hc, Bool.or_true]

theorem codeNames_of_isIdentifier (h : isIdentifier a = true) : codeNames a = [a] := by
  obtain ⟨first, rest, hchars, hfirst, -⟩ := exists_cons_of_isIdentifier h
  have hstart : a.toList.head?.any isIdentifierStart = true := by rwa [hchars]
  rw [codeNames_of_isPlain (isPlain_of_isIdentifier h),
    namesIn_of_forall (isNameChar_of_isIdentifier h), if_pos hstart, List.map_singleton,
    String.ofList_toList]

/-- Code goes on behind plain text that ends in a character which no name has. -/
theorem IsPlain.codeNames_append (ha : IsPlain a)
    (hlast : a.toList.getLast?.any isNameChar = false) (b : String) :
    codeNames (a ++ b) = codeNames a ++ codeNames b := by
  rw [codeNames, String.toList_append, blanked_append, ha.blanked_code, ha.after_code,
    namesIn_append_of_getLast hlast, List.map_append, codeNames_of_isPlain ha]
  rfl

/-- Whatever stands before it, closing brackets add no name. -/
theorem codeNames_append_closing (a : String) (hb : b.toList.any isNameChar = false) :
    codeNames (a ++ b) = codeNames a := by
  have hnone : ((code.after a.toList).blanked b.toList).any isNameChar = false := by
    rw [List.any_eq_false] at hb ⊢
    exact fun c hc ↦ hb c (mem_of_mem_blanked hc)
  have hhead : ((code.after a.toList).blanked b.toList).head?.any isNameChar = false := by
    rw [Option.any_eq_false]
    rw [List.any_eq_false] at hnone
    exact fun c hc ↦ Bool.eq_false_iff.mpr (hnone c (List.mem_of_mem_head? hc))
  rw [codeNames, String.toList_append, blanked_append, namesIn_append_of_head _ hhead,
    namesIn_eq_nil hnone, List.append_nil]
  rfl

theorem codeNames_intercalate {texts : List String} (h : ∀ text ∈ texts, IsClosed text) :
    codeNames (", ".intercalate texts) = texts.flatMap codeNames := by
  induction texts with
  | nil => rfl
  | cons first rest ih =>
    obtain ⟨hfirst, hrest⟩ := List.forall_mem_cons.mp h
    cases rest with
    | nil => simp
    | cons second others =>
      have hblanked : (code.after first.toList).blanked
          (", " ++ ", ".intercalate (second :: others)).toList =
            ',' :: ' ' :: code.blanked (", ".intercalate (second :: others)).toList := by
        rw [String.toList_append]
        exact blanked_of_isOutside hfirst (by decide)
      rw [String.intercalate_cons_cons, String.append_assoc, codeNames, String.toList_append,
        blanked_append, hblanked, namesIn_append_cons _ (by decide), namesIn_cons (by decide),
        List.map_append, List.flatMap_cons, ← ih hrest]
      rfl

theorem IsPlain.codeNames_bracketed (ha : IsPlain a)
    (hlast : a.toList.getLast?.any isNameChar = false) (hb : b.toList.any isNameChar = false)
    (inner : String) : codeNames (a ++ inner ++ b) = codeNames a ++ codeNames inner :=
  (codeNames_append_closing _ hb).trans (ha.codeNames_append hlast inner)

end Text

/-! ## Names in literals -/

open Text (codeNames namesIn isNameChar IsPlain IsClosed)

/-- A numeral has no names. -/
theorem Numeral.namesIn_chars (n : Numeral) : namesIn n.chars = [] := by
  have hdigits {digits rest : List Char} (h : ∀ c ∈ digits, c.isDigit = true)
      (hrest : ∀ c ∈ rest, isNameChar c = true) (hne : digits ≠ []) :
      namesIn (digits ++ rest) = [] := by
    obtain ⟨c, more, rfl⟩ := List.exists_cons_of_ne_nil hne
    obtain ⟨hc, hmore⟩ := List.forall_mem_cons.mp h
    refine Text.namesIn_of_isDigit hc (List.forall_mem_append.mpr ⟨fun d hd ↦ ?_, hrest⟩)
    exact (Text.isNameChar_of_isDigit (hmore d hd)).1
  -- what stands in front of an exponent, and the letter of the exponent if there is one
  have hfront {letter : List Char} (hletter : ∀ c ∈ letter, isNameChar c = true) :
      namesIn (n.whole ++ fractionChars n.fraction ++ letter) = [] := by
    unfold fractionChars
    split
    · rw [List.append_nil]
      exact hdigits n.isDigit_whole hletter n.whole_ne_nil
    · next hne =>
      rw [List.append_assoc, List.cons_append, Text.namesIn_append_cons _ (by decide),
        hdigits n.isDigit_fraction hletter (by simpa using hne)]
      have hwhole := hdigits n.isDigit_whole (by simp : ∀ c ∈ ([] : List Char), _) n.whole_ne_nil
      rwa [List.append_nil] at hwhole ⊢
  rw [chars, ← List.append_assoc]
  unfold exponentChars
  split
  · exact hfront (by simp)
  · next negative digits hexponent =>
    obtain ⟨hne, hall⟩ := n.isDigit_exponent _ hexponent
    have hsign : isNameChar (if negative then '-' else '+') = false := by
      cases negative <;> decide
    have hlast := hdigits hall (by simp : ∀ c ∈ ([] : List Char), _) hne
    rw [List.append_nil] at hlast
    rw [List.append_cons, Text.namesIn_append_cons _ hsign, hlast, List.append_nil]
    exact hfront (List.forall_mem_singleton.mpr (by decide))

/-- The literal of a finite scalar has no names but those of the truth values. -/
theorem Scalar.codeNames_literal {s : Scalar} (h : s.isFinite = true) :
    codeNames s.literal ⊆ ["True", "False"] := by
  cases s with
  | text s =>
    have hblanked := (Text.Place.after_literalChars s.toList).2
    have hquote :
        [Text.literalQuote s.toList, Text.literalQuote s.toList].any isNameChar = false := by
      rw [Text.literalQuote]
      split <;> decide
    have hchars : (Scalar.text s).literal.toList = Text.literalChars s.toList :=
      String.toList_ofList
    rw [codeNames, hchars, hblanked, Text.namesIn_eq_nil hquote]
    exact List.nil_subset _
  | bool b => cases b <;> decide
  | number number =>
    obtain ⟨negative, n, hchars, -⟩ := Number.exists_numeral h
    have hliteral : (Scalar.number number).literal.toList =
        Binary64.signed negative n.chars := by
      rw [← hchars]
      exact String.toList_ofList
    have hnames : namesIn (Binary64.signed negative n.chars) = [] := by
      cases negative with
      | false => exact n.namesIn_chars
      | true => exact (Text.namesIn_cons (by decide) _).trans n.namesIn_chars
    rw [Text.codeNames_of_isPlain number.isPlain_literal, hliteral, hnames]
    exact List.nil_subset _

theorem Scalar.codeNames_literals {values : List Scalar}
    (h : ∀ s ∈ values, s.isFinite = true) :
    codeNames (", ".intercalate (values.map Scalar.literal)) ⊆ ["True", "False"] := by
  rw [Text.codeNames_intercalate (List.forall_mem_map.mpr fun s _ ↦ s.isClosed_literal),
    List.flatMap_map]
  intro name hname
  obtain ⟨s, hs, hname⟩ := List.mem_flatMap.mp hname
  exact Scalar.codeNames_literal (h s hs) hname

/-! ## Names in annotations -/

/-- A name that is bound where an annotation stands. -/
inductive IsBound (components : ComponentNames) (models : List Model) (name : String) : Prop
  | truthValue (mem : name ∈ ["True", "False"])
  | keyword (mem : name ∈ constraintKeywords)
  | moduleName (mem : name ∈ moduleNames)
  | modelName (mem : name ∈ models.map Model.name)
  | component (inModel : Bool) (component expression : String)
      (found : components inModel component = some expression) (mem : name ∈ codeNames expression)

variable {components : ComponentNames} {models : List Model}

theorem Constraint.codeNames_text {c : Constraint} (h : c.keyword ∈ constraintKeywords) :
    IsClosed c.text ∧ codeNames c.text = c.keyword :: codeNames c.value.literal := by
  have hkeywords : ∀ keyword ∈ constraintKeywords, IsPlain keyword ∧ IsPlain (keyword ++ "=") ∧
      (keyword ++ "=").toList.getLast?.any isNameChar = false ∧
      codeNames (keyword ++ "=") = [keyword] := by
    decide
  obtain ⟨hplain, hequals, hlast, hnames⟩ := hkeywords c.keyword h
  refine ⟨TypeExpr.isClosed_constraint hplain, ?_⟩
  rw [text, hequals.codeNames_append hlast, hnames]
  rfl

/-- What opens an annotation: plain code with names of the module, which end there. -/
def IsOpening (text : String) : Prop :=
  IsPlain text ∧ text.toList.getLast?.any isNameChar = false ∧ codeNames text ⊆ moduleNames

instance (text : String) : Decidable (IsOpening text) :=
  inferInstanceAs (Decidable (_ ∧ _ ∧ _))

theorem IsOpening.isBound {opening closing inner : String} (h : IsOpening opening)
    (hclosing : closing.toList.any isNameChar = false)
    (hinner : ∀ name ∈ codeNames inner, IsBound components models name) :
    ∀ name ∈ codeNames (opening ++ inner ++ closing), IsBound components models name := by
  obtain ⟨hplain, hlast, hsubset⟩ := h
  rw [hplain.codeNames_bracketed hlast hclosing]
  exact List.forall_mem_append.mpr ⟨fun name hname ↦ .moduleName (hsubset hname), hinner⟩

namespace TypeExpr

/-- An annotation of finite scalars has bound names only. -/
theorem HasShape.isBound {type : TypeExpr} (h : type.HasShape (IsNameFor components models))
    (hfinite : ∀ s ∈ type.scalars, s.isFinite = true) :
    ∀ name ∈ codeNames type.text, IsBound components models name := by
  have hmodule {text : String} (hsubset : codeNames text ⊆ moduleNames) :
      ∀ name ∈ codeNames text, IsBound components models name :=
    fun name hname ↦ .moduleName (hsubset hname)
  induction h with
  | any => exact hmodule (by decide)
  | string => exact hmodule (by decide)
  | integer => exact hmodule (by decide)
  | float => exact hmodule (by decide)
  | boolean => exact hmodule (by decide)
  | dateTime => exact hmodule (by decide)
  | dictionary => exact hmodule (by decide)
  | constrained base constraints isBase ne_nil keywords =>
    have hopening : ∀ base ∈ ([.string, .integer, .float] : List TypeExpr),
        IsOpening ("Annotated[" ++ base.text ++ ", Field(") := by
      decide
    have hclosed : ∀ text ∈ constraints.map Constraint.text, IsClosed text :=
      List.forall_mem_map.mpr fun c hc ↦ (Constraint.codeNames_text (keywords c hc)).1
    refine (hopening base isBase).isBound (by decide) fun name hname ↦ ?_
    rw [Text.codeNames_intercalate hclosed, List.flatMap_map, List.mem_flatMap] at hname
    obtain ⟨c, hc, hname⟩ := hname
    rw [(Constraint.codeNames_text (keywords c hc)).2] at hname
    rcases List.mem_cons.mp hname with rfl | hname
    · exact .keyword (keywords c hc)
    · refine .truthValue (Scalar.codeNames_literal (hfinite _ ?_) hname)
      exact List.mem_append_right _ (List.mem_map_of_mem hc)
  | choice values =>
    have hopening : IsOpening "Literal[" := by decide
    exact hopening.isBound (by decide) fun name hname ↦
      .truthValue (Scalar.codeNames_literals hfinite hname)
  | list _ ih =>
    have hopening : IsOpening "list[" := by decide
    exact hopening.isBound (by decide) (ih hfinite)
  | optional _ ih =>
    have hopening : IsOpening "Optional[" := by decide
    exact hopening.isBound (by decide) (ih hfinite)
  | named h =>
    intro name hname
    cases h with
    | model isIdentifier mem =>
      rw [text, Text.codeNames_of_isIdentifier isIdentifier, List.mem_singleton] at hname
      exact .modelName (hname ▸ mem)
    | component inModel component found => exact .component inModel component _ found hname

end TypeExpr

/-- The annotation of a schema, and those of the models that come with it, have a literal for each
bound and each listed value. They have bound names only, and the literals mean their values, exactly
when all of the values are finite and have no more digits than integers may have. -/
theorem Schema.render_isClosed_iff (components : ComponentNames) (inModel : Bool) (hint : String)
    (schema : Schema) (scope : ModelScope) :
    let rendered := schema.render components inModel hint scope
    ∃ added, rendered.2.models = scope.models ++ added ∧
      let types := rendered.1 :: added.flatMap Model.types
      (types.flatMap TypeExpr.scalars).Perm (schema.scalars inModel) ∧
        ((∀ type ∈ types,
            (∀ name ∈ codeNames type.text, IsBound components rendered.2.models name) ∧
              ∀ s ∈ type.scalars, Scalar.evaluate? s.literal = some s) ↔
          ∀ s ∈ schema.scalars inModel, s.isFinite = true ∧ s.isWritable = true) := by
  intro rendered
  obtain ⟨added, hadded, hshape, hperm⟩ :=
    @render_yields components inModel hint schema scope
  refine ⟨added, hadded, hperm, ?_⟩
  have hscalars (s : Scalar) : s ∈ schema.scalars inModel ↔
      ∃ type ∈ rendered.1 :: added.flatMap Model.types, s ∈ type.scalars := by
    rw [← hperm.mem_iff, List.mem_flatMap]
    rfl
  constructor
  · intro h s hs
    obtain ⟨type, htype, hmem⟩ := (hscalars s).mp hs
    exact (Scalar.evaluate?_literal_iff s).mp ((h type htype).2 s hmem)
  · intro h type htype
    have hfinite (s : Scalar) (hs : s ∈ type.scalars) :
        s.isFinite = true ∧ s.isWritable = true :=
      h s ((hscalars s).mpr ⟨type, htype, hs⟩)
    constructor
    · exact (hshape type htype).isBound fun s hs ↦ (hfinite s hs).1
    · exact fun s hs ↦ (Scalar.evaluate?_literal_iff s).mpr (hfinite s hs)

/-- A range that a document states with a bound too large for the format. -/
def endlessRange : Value :=
  .map [(.text "type", .text "number"), (.text "minimum", .float (.infinity false))]

/-- The bound is written as a name that nothing binds, so the annotation is not closed. -/
theorem endlessRange_isOpen :
    ∃ schema, (Schema.resolve none endlessRange).outcome = .ok schema ∧
      let rendered := schema.render (fun _ _ ↦ none) false "S" (.empty [])
      rendered.1.text = "Annotated[float, Field(ge=inf)]" ∧
        "inf" ∈ codeNames rendered.1.text ∧
        ¬IsBound (fun _ _ ↦ none) rendered.2.models "inf" ∧
        ¬((∀ name ∈ codeNames rendered.1.text,
            IsBound (fun _ _ ↦ none) rendered.2.models name) ∧
          ∀ s ∈ rendered.1.scalars, Scalar.evaluate? s.literal = some s) := by
  let schema := Schema.number false false { minimum := some (.float (.infinity false)) }
  refine ⟨schema, rfl, by decide +kernel, by decide +kernel, ?_, fun h ↦ ?_⟩
  · intro h
    cases h with
    | truthValue mem => exact absurd mem (by decide)
    | keyword mem => exact absurd mem (by decide)
    | moduleName mem => exact absurd mem (by decide)
    | modelName mem => cases mem
    | component inModel component expression found mem => cases found
  · obtain ⟨added, hadded, -, hiff⟩ :=
      Schema.render_isClosed_iff (fun _ _ ↦ none) false "S" schema (.empty [])
    obtain rfl : added = [] := hadded.symm
    have hfinite := hiff.mp (List.forall_mem_singleton.mpr h)
      (.number (.float (.infinity false))) (List.mem_singleton_self _)
    exact absurd hfinite.1 (by decide)

end ApiCompiler
