import ApiCompiler.Proofs.Model.ClassName
import ApiCompiler.Proofs.Text.Snippet

/-!
# Classes as clean code

The code of a class is made of names, numbers and literals. A name that the compiler derives is
plain whatever it is derived from, and a text of the document is written as a literal only, so the
annotation of any schema is a piece of code of its own and so is every field of a class.
-/

namespace ApiCompiler

open Text (IsPlain IsSnippet IsClosed isPlainChar)

/-! ## Literals -/

namespace Binary64

variable {text : List Char} {c : Char}

theorem isPlainChar_of_mem_digitChars {n : Nat} (h : c ∈ digitChars n) : isPlainChar c = true :=
  Text.isPlainChar_of_ascii (p := Char.isDigit) (by decide)
    (Nat.isDigit_of_mem_toDigits (by decide) (by decide) h)

theorem isPlainChar_of_mem_signed (h : ∀ c ∈ text, isPlainChar c = true) (negative : Bool) :
    ∀ c ∈ signed negative text, isPlainChar c = true := by
  cases negative with
  | false => exact h
  | true => exact List.forall_mem_cons.mpr ⟨by decide, h⟩

theorem isPlainChar_of_mem_pointAfterFirst (h : ∀ c ∈ text, isPlainChar c = true) :
    ∀ c ∈ pointAfterFirst text, isPlainChar c = true := by
  unfold pointAfterFirst
  split
  · exact h
  · exact h
  · next first rest _ =>
    obtain ⟨hfirst, hrest⟩ := List.forall_mem_cons.mp h
    exact List.forall_mem_cons.mpr ⟨hfirst, List.forall_mem_cons.mpr ⟨by decide, hrest⟩⟩

theorem isPlainChar_of_mem_exponentChars (exponent : Int) :
    ∀ c ∈ exponentChars exponent, isPlainChar c = true := by
  have hdigits : ∀ c ∈ digitChars exponent.natAbs, isPlainChar c = true :=
    fun _ ↦ isPlainChar_of_mem_digitChars
  refine List.forall_mem_cons.mpr ⟨by decide, List.forall_mem_cons.mpr ⟨?_, ?_⟩⟩
  · split <;> decide
  · split
    · exact List.forall_mem_cons.mpr ⟨by decide, hdigits⟩
    · exact hdigits

theorem isPlainChar_of_mem_positional (d : Decimal) :
    ∀ c ∈ positional d, isPlainChar c = true := by
  have hdigits : ∀ c ∈ digitChars d.digits, isPlainChar c = true :=
    fun _ ↦ isPlainChar_of_mem_digitChars
  have hzeros (count : Nat) : ∀ c ∈ List.replicate count '0', isPlainChar c = true := by
    intro c hc
    rw [List.eq_of_mem_replicate hc]
    decide
  unfold positional
  dsimp only
  split_ifs
  · exact List.forall_mem_append.mpr ⟨hdigits, hzeros _⟩
  · refine List.forall_mem_append.mpr ⟨fun c hc ↦ hdigits c (List.mem_of_mem_take hc), ?_⟩
    exact List.forall_mem_cons.mpr ⟨by decide, fun c hc ↦ hdigits c (List.mem_of_mem_drop hc)⟩
  · refine List.forall_mem_append.mpr ⟨?_, hdigits⟩
    exact List.forall_mem_cons.mpr ⟨by decide, List.forall_mem_cons.mpr ⟨by decide, hzeros _⟩⟩

theorem isPlainChar_of_mem_literalChars (x : Binary64) :
    ∀ c ∈ x.literalChars, isPlainChar c = true := by
  cases x with
  | nan => exact List.all_eq_true.mp (by decide)
  | infinity negative => exact isPlainChar_of_mem_signed (List.all_eq_true.mp (by decide)) negative
  | finite negative exponent fraction =>
    unfold literalChars
    dsimp only
    split_ifs
    · exact isPlainChar_of_mem_signed (List.all_eq_true.mp (by decide)) negative
    all_goals refine isPlainChar_of_mem_signed ?_ negative
    · refine List.forall_mem_append.mpr ⟨isPlainChar_of_mem_pointAfterFirst ?_, ?_⟩
      · exact fun _ ↦ isPlainChar_of_mem_digitChars
      · exact isPlainChar_of_mem_exponentChars _
    · have hend := List.all_eq_true.mp (show ".0".toList.all isPlainChar = true by decide)
      exact List.forall_mem_append.mpr ⟨isPlainChar_of_mem_positional _, hend⟩
    · exact isPlainChar_of_mem_positional _

end Binary64

theorem Number.isPlain_literal (n : Number) : IsPlain (Scalar.number n).literal := by
  have hplain {text : List Char} (h : ∀ c ∈ text, isPlainChar c = true) :
      IsPlain (String.ofList text) := by
    rwa [IsPlain, String.toList_ofList]
  cases n with
  | int n =>
    exact hplain (Binary64.isPlainChar_of_mem_signed
      (fun _ ↦ Binary64.isPlainChar_of_mem_digitChars) _)
  | float x => exact hplain (Binary64.isPlainChar_of_mem_literalChars x)

/-- The literal of a scalar ends where it should, also that of a text of the document. -/
theorem Scalar.isClosed_literal (s : Scalar) : IsClosed s.literal := by
  cases s with
  | text s => exact Text.isClosed_literal s
  | bool b => cases b <;> decide
  | number n => exact n.isPlain_literal.isSnippet.isClosed

/-! ## Names -/

namespace Naming

/-- An identifier is plain whatever text it is made of. -/
theorem isPlain_identifier (text : String) (reserved : List String) :
    IsPlain (identifier text reserved) := by
  obtain ⟨count, hchars⟩ := exists_identifier_toList text reserved
  have hword : ∀ c ∈ wordChars text.toList, isPlainChar c = true := by
    intro c hc
    obtain ⟨d, -, rfl⟩ := List.mem_map.mp hc
    split
    · next hd => exact Text.isPlainChar_of_ascii (p := Text.isWordChar) (by decide) hd
    · decide
  have hstem : ∀ c ∈ identifierStem text.toList, isPlainChar c = true := by
    unfold identifierStem
    split
    · exact List.all_eq_true.mp (by decide)
    · next first rest hcons =>
      rw [hcons] at hword
      split
      · exact List.forall_mem_cons.mpr ⟨by decide, hword⟩
      · exact hword
  intro c hc
  rw [hchars, List.mem_append] at hc
  rcases hc with hc | hc
  · exact hstem c hc
  · rw [List.eq_of_mem_replicate hc]
    decide

theorem IsUsable.isPlain {reserved : List String} {name : String} (h : IsUsable reserved name) :
    IsPlain name :=
  Text.isPlain_of_isIdentifier h.isIdentifier

end Naming

namespace Named

/-- Plain texts under names, whatever the names are. -/
def HoldsPlain (entries : Named String) : Prop :=
  ∀ value ∈ entries.map Prod.snd, IsPlain value

theorem HoldsPlain.of_find? {entries : Named String} (h : entries.HoldsPlain) {name value : String}
    (hfound : entries.find? name = some value) : IsPlain value :=
  h value (List.mem_map.mpr ⟨(name, value), mem_of_find? hfound, rfl⟩)

end Named

/-- The field names of a model are plain whatever the properties are. -/
theorem Model.fieldNames_holdsPlain (properties reserved : List String) :
    Named.HoldsPlain (fieldNames properties reserved) := by
  intro name hname
  rw [fieldNames, fieldNamesFrom_eq_assigned] at hname
  obtain ⟨taken, property, -, rfl⟩ := Naming.exists_choose_of_mem_assigned hname
  rw [fieldName]
  split
  · exact Naming.isPlain_identifier _ _
  · exact Naming.isPlain_identifier _ _

/-! ## Annotations -/

namespace TypeExpr

variable {a : TypeExpr}

theorem isSnippet_orNoneIf (h : IsSnippet a.text) (condition : Bool) :
    IsSnippet (a.orNoneIf condition).text := by
  have hopen : IsPlain "Optional[" := by decide
  have hclose : IsPlain "]" := by decide
  unfold orNoneIf orNone
  split_ifs
  · exact h
  · exact (hopen.isSnippet.append h).append hclose.isSnippet
  · exact h

theorem isSnippet_list (h : IsSnippet a.text) : IsSnippet (list a).text := by
  have hopen : IsPlain "list[" := by decide
  have hclose : IsPlain "]" := by decide
  exact (hopen.isSnippet.append h).append hclose.isSnippet

theorem isSnippet_choice (values : List Scalar) : IsSnippet (choice values).text := by
  have hopen : IsPlain "Literal[" := by decide
  have hclose : IsPlain "]" := by decide
  have hvalues : IsClosed (", ".intercalate (values.map Scalar.literal)) :=
    Text.isClosed_intercalate (List.forall_mem_map.mpr fun s _ ↦ s.isClosed_literal)
  exact (hopen.append_closed (by decide) hvalues).append hclose.isSnippet

theorem isClosed_constraint {c : Constraint} (h : IsPlain c.keyword) : IsClosed c.text := by
  have hkeyword : IsPlain (c.keyword ++ "=") := h.append (by decide)
  have hne : c.keyword ++ "=" ≠ "" := by simp [String.append_eq_empty_iff]
  exact (hkeyword.append_closed hne c.value.isClosed_literal).isClosed

theorem isSnippet_withConstraints (h : IsSnippet a.text) {constraints : List Constraint}
    (hconstraints : ∀ c ∈ constraints, IsPlain c.keyword) :
    IsSnippet (a.withConstraints constraints).text := by
  have hopen : IsPlain "Annotated[" := by decide
  have hfield : IsPlain ", Field(" := by decide
  have hclose : IsPlain ")]" := by decide
  have htexts : IsClosed (", ".intercalate (constraints.map Constraint.text)) :=
    Text.isClosed_intercalate (List.forall_mem_map.mpr fun c hc ↦
      isClosed_constraint (hconstraints c hc))
  unfold withConstraints
  split
  · exact h
  · exact ((hopen.isSnippet.append h).append_closed hfield (by decide) htexts).append
      hclose.isSnippet

end TypeExpr

theorem isPlain_of_mem_boundConstraint {keyword : String} (h : IsPlain keyword)
    {bound : Option Number} {c : Constraint} (hc : c ∈ boundConstraint keyword bound) :
    IsPlain c.keyword := by
  cases bound with
  | none => cases hc
  | some n =>
    rw [List.mem_singleton.mp hc]
    exact h

theorem Bounds.isPlain_of_mem_constraints {b : Bounds} {c : Constraint} (h : c ∈ b.constraints) :
    IsPlain c.keyword := by
  rw [constraints, List.mem_append, List.mem_append, List.mem_append] at h
  rcases h with ((h | h) | h) | h
  all_goals exact isPlain_of_mem_boundConstraint (by decide) h

theorem StringLimits.isPlain_of_mem_constraints {inModel : Bool} {l : StringLimits} {c : Constraint}
    (h : c ∈ l.constraints inModel) : IsPlain c.keyword := by
  have hlength {keyword : String} (hkeyword : IsPlain keyword) {length : Option Nat}
      (hc : c ∈ lengthConstraint keyword length) : IsPlain c.keyword := by
    cases length with
    | none => cases hc
    | some n =>
      rw [List.mem_singleton.mp hc]
      exact hkeyword
  rw [constraints, List.mem_append, List.mem_append] at h
  rcases h with (h | h) | h
  · exact hlength (by decide) h
  · exact hlength (by decide) h
  · split at h
    · cases hpattern : l.pattern with
      | none => simp [hpattern] at h
      | some p =>
        have hkeyword : IsPlain "pattern" := by decide
        rw [hpattern] at h
        rw [List.mem_singleton.mp h]
        exact hkeyword
    · cases h

/-- Names of components that are plain expressions. -/
def ComponentNames.ArePlain (components : ComponentNames) : Prop :=
  ∀ inModel component, ∀ expression ∈ components inModel component, IsPlain expression

theorem isSnippet_componentType {expression : Option String}
    (h : ∀ e ∈ expression, IsPlain e) : IsSnippet (componentType expression).text := by
  have hany : IsPlain TypeExpr.any.text := by decide
  unfold componentType
  split
  · exact hany.isSnippet
  · split
    · exact hany.isSnippet
    · exact (h _ rfl).isSnippet

/-! ## Models -/

/-- A class whose names are plain and whose annotations are pieces of code of their own. -/
structure Model.IsClean (model : Model) : Prop where
  name : IsPlain model.name
  names : model.names.HoldsPlain
  fields : ∀ field ∈ model.fields, IsPlain field.name ∧ IsSnippet field.type.text

/-- A scope with clean classes only. -/
def ModelScope.IsClean (scope : ModelScope) : Prop :=
  ∀ model ∈ scope.models, model.IsClean

theorem ModelScope.isClean_empty (reserved : List String) : (empty reserved).IsClean :=
  nofun

theorem ModelScope.IsClean.push {scope : ModelScope} (h : scope.IsClean) {model : Model}
    (hmodel : model.IsClean) : (scope.push model).IsClean :=
  List.forall_mem_append.mpr ⟨h, List.forall_mem_singleton.mpr hmodel⟩

theorem Model.isClean_of_fieldNames {className : String} {fields : List ModelField}
    {properties reserved : List String} (hname : IsPlain className)
    (hfields : fields.map (fun f ↦ (f.property, f.name)) = fieldNames properties reserved)
    (htypes : ∀ field ∈ fields, IsSnippet field.type.text) :
    Model.IsClean ⟨className, fields, fieldNames properties reserved⟩ where
  name := hname
  names := fieldNames_holdsPlain properties reserved
  fields field hfield := by
    refine ⟨fieldNames_holdsPlain properties reserved field.name ?_, htypes field hfield⟩
    rw [← hfields, List.map_map]
    exact List.mem_map.mpr ⟨field, hfield, rfl⟩

namespace Schema

variable {components : ComponentNames}

mutual
/-- The annotation of any schema is a piece of code of its own, and so are the fields of the classes
that it gives rise to. -/
theorem render_isClean (hcomponents : components.ArePlain) (inModel : Bool) (hint : String) :
    (schema : Schema) → {scope : ModelScope} → scope.IsClean →
      IsSnippet (schema.render components inModel hint scope).1.text ∧
        (schema.render components inModel hint scope).2.IsClean
  | .string nullable limits, _, h => by
    have hstring : IsPlain TypeExpr.string.text := by decide
    have hdateTime : IsPlain TypeExpr.dateTime.text := by decide
    rw [render]
    refine ⟨TypeExpr.isSnippet_orNoneIf ?_ nullable, h⟩
    split
    · exact hdateTime.isSnippet
    · exact TypeExpr.isSnippet_withConstraints hstring.isSnippet fun _ ↦
        StringLimits.isPlain_of_mem_constraints
  | .number nullable integer bounds, _, h => by
    have hinteger : IsPlain TypeExpr.integer.text := by decide
    have hfloat : IsPlain TypeExpr.float.text := by decide
    rw [render]
    refine ⟨TypeExpr.isSnippet_orNoneIf (TypeExpr.isSnippet_withConstraints ?_ fun _ ↦
      Bounds.isPlain_of_mem_constraints) nullable, h⟩
    split
    · exact hinteger.isSnippet
    · exact hfloat.isSnippet
  | .boolean nullable, _, h => by
    have hboolean : IsPlain TypeExpr.boolean.text := by decide
    exact ⟨TypeExpr.isSnippet_orNoneIf hboolean.isSnippet nullable, h⟩
  | .enumeration nullable values, _, h =>
    ⟨TypeExpr.isSnippet_orNoneIf (TypeExpr.isSnippet_choice values) nullable, h⟩
  | .array nullable items, _, h => by
    obtain ⟨hitems, hscope⟩ := render_isClean hcomponents inModel (hint ++ "Item") items h
    exact ⟨TypeExpr.isSnippet_orNoneIf (TypeExpr.isSnippet_list hitems) nullable, hscope⟩
  | .object nullable [], _, h => by
    have hdictionary : IsPlain TypeExpr.dictionary.text := by decide
    exact ⟨TypeExpr.isSnippet_orNoneIf hdictionary.isSnippet nullable, h⟩
  | .object nullable (property :: rest), scope, h => by
    have hname : IsPlain (scope.claim hint).1 := (scope.claim_isUsable hint).isPlain
    have hnamed : IsSnippet (TypeExpr.named (scope.claim hint).1).text := hname.isSnippet
    have hclaimed : (scope.claim hint).2.IsClean := h
    let names := Model.fieldNames ((property :: rest).map Prod.fst) (scope.claim hint).2.taken
    obtain ⟨htypes, hscope⟩ :=
      renderFields_isClean hcomponents (scope.claim hint).1 (property :: rest) names hclaimed
    have hfields := @map_renderFields components (scope.claim hint).1 (property :: rest) names
      (Model.names_fieldNames _ _) (scope.claim hint).2
    rw [render]
    exact ⟨TypeExpr.isSnippet_orNoneIf hnamed nullable,
      hscope.push (Model.isClean_of_fieldNames hname hfields htypes)⟩
  | .ref nullable name, _, h =>
    ⟨TypeExpr.isSnippet_orNoneIf (isSnippet_componentType (hcomponents inModel name)) nullable, h⟩
  | .unknown nullable, _, h => by
    have hany : IsPlain TypeExpr.any.text := by decide
    exact ⟨TypeExpr.isSnippet_orNoneIf hany.isSnippet nullable, h⟩
termination_by structural schema => schema
theorem renderFields_isClean (hcomponents : components.ArePlain) (className : String) :
    (properties : List (String × Bool × Schema)) → (names : List (String × String)) →
      {scope : ModelScope} → scope.IsClean →
      (∀ field ∈ (renderFields components className properties names scope).1,
        IsSnippet field.type.text) ∧
        (renderFields components className properties names scope).2.IsClean
  | [], _, _, h => ⟨nofun, h⟩
  | (property, required, schema) :: rest, names, _, h => by
    obtain ⟨htype, hscope⟩ :=
      render_isClean hcomponents true (className ++ Naming.pascal property) schema h
    obtain ⟨hrest, hfinal⟩ := renderFields_isClean hcomponents className rest names.tail hscope
    rw [renderFields]
    exact ⟨List.forall_mem_cons.mpr ⟨TypeExpr.isSnippet_orNoneIf htype (!required), hrest⟩, hfinal⟩
termination_by structural properties => properties
end

/-- Making a class of a schema under a plain name keeps a scope clean. -/
theorem hoistAs_isClean (hcomponents : components.ArePlain) {className : String}
    (hname : IsPlain className) (schema : Schema) {scope : ModelScope} (h : scope.IsClean) :
    (schema.hoistAs components className scope).IsClean := by
  obtain ⟨htypes, hscope⟩ := renderFields_isClean hcomponents className schema.properties
    (Model.fieldNames (schema.properties.map Prod.fst) scope.taken) h
  have hfields := @map_renderFields components className schema.properties _
    (Model.names_fieldNames (schema.properties.map Prod.fst) scope.taken) scope
  exact hscope.push (Model.isClean_of_fieldNames hname hfields htypes)

theorem hoist_isClean (hcomponents : components.ArePlain) (schema : Schema) (name : String)
    {scope : ModelScope} (h : scope.IsClean) :
    IsPlain (schema.hoist components name scope).1 ∧
      (schema.hoist components name scope).2.IsClean := by
  have hname : IsPlain (scope.claim name).1 := (scope.claim_isUsable name).isPlain
  have hclaimed : (scope.claim name).2.IsClean := h
  exact ⟨hname, hoistAs_isClean hcomponents hname schema hclaimed⟩

end Schema

/-! ## Lines of a class -/

/-- The declaration of a field is a piece of code of its own. -/
theorem ModelField.isSnippet_line {f : ModelField} (hname : IsPlain f.name)
    (htype : IsSnippet f.type.text) : IsSnippet f.line := by
  have hcolon : IsPlain ": " := by decide
  have hdefault : ∀ d ∈ f.default?, IsSnippet d := by
    have halias (start : String) (hstart : IsPlain start) (hne : start ≠ "") :
        IsSnippet (start ++ Text.literal f.property ++ ")") := by
      have hclose : IsPlain ")" := by decide
      exact (hstart.append_closed hne (Text.isClosed_literal f.property)).append hclose.isSnippet
    have hnone : IsPlain "None" := by decide
    intro d hd
    unfold default? at hd
    split_ifs at hd
    · rw [← Option.some.inj hd]
      exact halias _ (by decide) (by decide)
    · cases hd
    · rw [← Option.some.inj hd]
      exact halias _ (by decide) (by decide)
    · rw [← Option.some.inj hd]
      exact hnone.isSnippet
  have hstart : IsSnippet (f.name ++ ": " ++ f.type.text) :=
    (hname.isSnippet.append hcolon.isSnippet).append htype
  rw [line]
  refine hstart.append ?_
  cases hd : f.default? with
  | none =>
    have hempty : IsPlain "" := by decide
    exact hempty.isSnippet
  | some d =>
    have hequals : IsPlain " = " := by decide
    exact hequals.isSnippet.append (hdefault d hd)

end ApiCompiler
