import ApiCompiler.Proofs.Model.ClassName
import ApiCompiler.Proofs.Model.Order

/-!
# Fields and the types of their model

The names of the fields of a model are chosen when those of the module and of all earlier classes
are taken, but before the classes of its own properties have names. A field never has a taken name.
It has the name of a class of its own model exactly where a property asks for that name: one that
stays as it is, up to the underscore behind a reserved word. The names that other properties give
rise to begin with a small letter, which no such class does.
-/

namespace ApiCompiler

namespace Naming

theorem IsFirstFree.unique {taken : String → Prop} {candidate : Nat → String}
    {name other : String} (h : IsFirstFree taken candidate name)
    (hother : IsFirstFree taken candidate other) : name = other := by
  obtain ⟨m, rfl, hfree, hbefore⟩ := h
  obtain ⟨n, rfl, hfree', hbefore'⟩ := hother
  rcases Nat.lt_trichotomy m n with hlt | rfl | hlt
  · exact absurd (hbefore' m hlt) hfree
  · rfl
  · exact absurd (hbefore n hlt) hfree'

/-! ## Names of classes -/

/-- A name as a class gets it: it begins with a capital, or with the underscore in front of a digit,
and has no underscore at its end but behind a reserved word. -/
structure IsClassName (name : String) : Prop where
  begins : ∃ c rest, name.toList = c :: rest ∧ (c.isUpper = true ∨ c = '_')
  settled : ∀ stem, name = stem ++ "_" → stem ∈ keywords

/-- The first letter of a spelling with capitals is one, unless a digit stands there. -/
theorem isUpper_or_isDigit_of_pascalFrom {text rest : List Char} {c : Char}
    (h : pascalFrom true text = c :: rest) : c.isUpper = true ∨ c.isDigit = true := by
  induction text with
  | nil => cases h
  | cons d tail ih =>
    rw [pascalFrom] at h
    split at h
    · next hword =>
      obtain ⟨rfl, -⟩ := List.cons_eq_cons.mp h
      have hascii : d.toNat < 128 := Text.toNat_lt_of_isAlphanum (by simpa using .inl hword)
      have hclass := Text.forall_ascii
        (p := fun d ↦ !d.isAlphanum || (d.toUpper.isUpper || d.toUpper.isDigit))
        (by decide) hascii
      rw [show d.isAlphanum = true from hword] at hclass
      simpa using hclass
    · exact ih h

/-- The stem of a word of letters and digits that does not begin with a small one. -/
theorem identifierStem_of_isAlphanum {c : Char} {rest : List Char}
    (hchars : ∀ d ∈ c :: rest, d.isAlphanum = true) (hc : c.isUpper = true ∨ c.isDigit = true) :
    ∃ first more, identifierStem (c :: rest) = first :: more ∧
      (first.isUpper = true ∨ first = '_') ∧ (first :: more).getLast? ≠ some '_' := by
  have hlast : (c :: rest).getLast? ≠ some '_' := by
    intro hend
    have hmem := hchars '_' (List.mem_of_getLast? hend)
    exact absurd hmem (by decide)
  have hwords : wordChars (c :: rest) = c :: rest :=
    wordChars_of_isAlphanum fun d hd ↦ by rw [hchars d hd, Bool.true_or]
  have hascii : c.toNat < 128 :=
    Text.toNat_lt_of_isAlphanum (by rw [hchars c (List.mem_cons_self ..), Bool.true_or])
  rw [identifierStem, hwords]
  simp only [Text.isAnyDigit_of_ascii hascii]
  split
  · exact ⟨'_', c :: rest, rfl, .inr rfl, by rwa [List.getLast?_cons_cons]⟩
  · next hdigit => exact ⟨c, rest, rfl, .inl (hc.resolve_right hdigit), hlast⟩

theorem toList_append_underscore (stem : String) : (stem ++ "_").toList = stem.toList ++ ['_'] := by
  simp

/-- The identifier of a spelling with capitals. -/
theorem isClassName_identifier {text : String} {c : Char} {rest : List Char}
    (htext : text.toList = c :: rest) (hchars : ∀ d ∈ c :: rest, d.isAlphanum = true)
    (hc : c.isUpper = true ∨ c.isDigit = true) : IsClassName (identifier text []) := by
  obtain ⟨first, more, hstem, hfirst, hlast⟩ := identifierStem_of_isAlphanum hchars hc
  obtain ⟨count, hname, -, hbefore⟩ := identifier_isFirstFree text []
  rw [htext, hstem] at hname hbefore
  have hname' : (identifier text []).toList = first :: more ++ List.replicate count '_' := by
    rw [hname, underscored, String.toList_append, String.toList_ofList, String.toList_ofList]
  refine ⟨⟨first, more ++ List.replicate count '_', hname', hfirst⟩, fun stem heq ↦ ?_⟩
  cases count with
  | zero =>
    rw [List.replicate_zero, List.append_nil, heq, toList_append_underscore] at hname'
    rw [← hname', List.getLast?_concat] at hlast
    exact absurd rfl hlast
  | succ count =>
    have hstem' : stem = underscored (String.ofList (first :: more)) count := by
      rw [List.replicate_succ', ← List.append_assoc, heq, toList_append_underscore] at hname'
      rw [← String.toList_inj, (List.append_inj' hname' rfl).1]
      simp [underscored]
    rw [hstem']
    simpa using hbefore count (Nat.lt_succ_self count)

theorem IsClassName.numbered {base : String} (h : IsClassName base) (count : Nat) :
    IsClassName (numbered base "" count) := by
  cases count with
  | zero => exact h
  | succ i =>
    have hchars := numbered_succ_toList base "" i
    rw [String.toList_empty, List.append_nil] at hchars
    obtain ⟨c, rest, hbase, hc⟩ := h.begins
    refine ⟨⟨c, rest ++ Nat.toDigits 10 (i + 2), by rw [hchars, hbase]; rfl, hc⟩,
      fun stem heq ↦ ?_⟩
    -- a number does not end in an underscore
    rw [heq, toList_append_underscore] at hchars
    have hend := congrArg List.getLast? hchars
    rw [List.getLast?_concat, List.getLast?_append_of_ne_nil _ Nat.toDigits_ne_nil] at hend
    have hdigit := Nat.isDigit_of_mem_toDigits (b := 10) (by decide) (by decide)
      (List.mem_of_getLast? hend.symm)
    exact absurd hdigit (by decide)

end Naming

open Naming (IsClassName)

/-! ## Names of fields -/

namespace Naming

/-- Where the name of a class is free, the search for an identifier stops at it with or without the
taken names. -/
theorem identifier_eq_iff_of_isClassName {name text : String} {taken : List String}
    (hname : IsClassName name) (hfree : name ∉ keywords ++ taken) :
    identifier text taken = name ↔ identifier text [] = name := by
  rw [List.mem_append, not_or] at hfree
  have hunder (stem : String) (i : Nat) :
      underscored stem (i + 1) = underscored stem i ++ "_" := by
    rw [← String.toList_inj, toList_append_underscore]
    simp [underscored, List.replicate_succ']
  constructor
  · intro h
    obtain ⟨count, hcount, -, -⟩ := h ▸ identifier_isFirstFree text taken
    refine (identifier_isFirstFree text []).unique ⟨count, hcount, by simpa using hfree.1, ?_⟩
    intro i hi
    rw [List.append_nil]
    -- what stands before the last underscore is a reserved word, and these have none at the end
    obtain ⟨last, rfl⟩ := Nat.exists_eq_succ_of_ne_zero (Nat.ne_zero_of_lt hi)
    have hkeyword := hname.settled _ (hcount.trans (hunder _ last))
    cases last with
    | zero => exact Nat.lt_one_iff.mp hi ▸ hkeyword
    | succ before =>
      rw [hunder] at hkeyword
      have hends : ∀ word ∈ keywords, word.toList.getLast? ≠ some '_' := by decide
      apply absurd _ (hends _ hkeyword)
      rw [toList_append_underscore, List.getLast?_concat]
  · intro h
    obtain ⟨count, hcount, -, hbefore⟩ := h ▸ identifier_isFirstFree text []
    refine (identifier_isFirstFree text taken).unique ⟨count, hcount, ?_, fun i hi ↦ ?_⟩
    · exact fun hmem ↦ (List.mem_append.mp hmem).elim hfree.1 hfree.2
    · exact List.mem_append_left _ (by simpa using hbefore i hi)

/-- The identifier of a text that begins with a small letter begins with it. -/
theorem head?_identifier {text : String} {c : Char} {rest : List Char}
    (htext : text.toList = c :: rest) (hc : c.isLower = true) (reserved : List String) :
    (identifier text reserved).toList.head? = some c := by
  obtain ⟨count, hchars⟩ := exists_identifier_toList text reserved
  have hascii := Text.toNat_lt_of_isLower hc
  have hword : Text.isWordChar c = true :=
    Text.isWordChar_of_ascii hascii (by simp [Text.isAlphanum_eq, hc])
  have hdigit : Text.isAnyDigit c = false := by
    have hclass := Text.forall_ascii (p := fun c ↦ !c.isLower || !c.isDigit) (by decide)
      hascii
    simpa [Text.isAnyDigit_of_ascii hascii, hc] using hclass
  rw [hchars, htext, identifierStem, wordChars, List.map_cons]
  simp [hword, hdigit]

end Naming

namespace Model

/-- A derived name begins with a small letter. -/
theorem exists_derivedName_toList (property : String) :
    ∃ c rest, (derivedName property).toList = c :: rest ∧ c.isLower = true := by
  have hfield (chars : List Char) :
      ∃ c rest, (String.ofList ("field_".toList ++ chars)).toList = c :: rest ∧
        c.isLower = true :=
    ⟨'f', "ield_".toList ++ chars, by rw [String.toList_ofList]; rfl, by decide⟩
  cases hchars : (Naming.snakeIdentifierChars property.toList).dropWhile (· == '_') with
  | nil =>
    rw [derivedName, hchars]
    exact ⟨'f', "ield".toList, by decide, by decide⟩
  | cons c rest =>
    have hc : c.isLower = true ∨ c.isDigit = true := by
      have hmem : c ∈ Naming.snakeIdentifierChars property.toList :=
        (List.dropWhile_sublist _).subset (hchars ▸ List.mem_cons_self ..)
      have hne : c ≠ '_' := by
        have hhead := List.head?_dropWhile_not (· == '_')
          (Naming.snakeIdentifierChars property.toList)
        rw [hchars, List.head?_cons] at hhead
        simpa using hhead
      rcases Naming.isLower_or_isDigit_or_eq (Naming.isSnakeChar_of_mem hmem) with h | h | h
      · exact .inl h
      · exact .inr h
      · exact absurd h hne
    rw [derivedName, hchars]
    simp only [List.isEmpty_cons, Bool.false_eq_true, if_false]
    split
    · exact hfield _
    · next hkept =>
      refine ⟨c, rest, String.toList_ofList, hc.resolve_right fun hdigit ↦ hkept ?_⟩
      simp [Text.isAnyDigit_of_ascii (Text.toNat_lt_of_isDigit hdigit), hdigit]

theorem not_isClassName_of_derived (property : String) (reserved : List String) :
    ¬IsClassName (Naming.identifier (derivedName property) reserved) := by
  intro h
  obtain ⟨c, rest, hderived, hc⟩ := exists_derivedName_toList property
  obtain ⟨d, more, hchars, hd⟩ := h.begins
  have hhead := Naming.head?_identifier hderived hc reserved
  rw [hchars, List.head?_cons, Option.some.injEq] at hhead
  rw [hhead] at hd
  rcases hd with hupper | rfl
  · simp [Text.isUpper_of_isLower hc] at hupper
  · exact absurd hc (by decide)

/-- A property that asks for a name: it stays as it is, up to the underscore behind a reserved
word. -/
def AsksFor (property name : String) : Prop :=
  isPlain property = true ∧ Naming.identifier property [] = name

instance (property name : String) : Decidable (AsksFor property name) :=
  inferInstanceAs (Decidable (_ ∧ _))

/-- A field gets the name of a class that is not taken yet exactly where its property asks for it.
-/
theorem fieldName_eq_iff {taken : List String} {name : String} (hname : IsClassName name)
    (hfree : name ∉ Naming.keywords ++ taken) (property : String) :
    fieldName taken property = name ↔ AsksFor property name := by
  rw [fieldName, AsksFor]
  split
  · next hplain => rw [Naming.identifier_eq_iff_of_isClassName hname hfree, and_iff_right hplain]
  · next hplain =>
    refine ⟨fun h ↦ ?_, fun h ↦ absurd h.1 hplain⟩
    exact absurd (h ▸ hname) (not_isClassName_of_derived property _)

/-- Some field gets the name of a class that is not taken yet exactly where a property asks for it.
-/
theorem mem_fieldNames_iff {taken : List String} {name : String} (hname : IsClassName name)
    (hfree : name ∉ Naming.keywords ++ taken) (properties : List String) :
    name ∈ (fieldNames properties taken).map Prod.snd ↔
      ∃ property ∈ properties, AsksFor property name := by
  rw [fieldNames]
  induction properties generalizing taken with
  | nil => simp [fieldNamesFrom]
  | cons property rest ih =>
    rw [fieldNamesFrom, List.map_cons, List.mem_cons, List.exists_mem_cons_iff, eq_comm,
      fieldName_eq_iff hname hfree]
    by_cases hasks : AsksFor property name
    · simp [hasks]
    · have hne := mt (fieldName_eq_iff hname hfree property).mp hasks
      rw [ih]
      rw [List.mem_append, not_or] at hfree ⊢
      exact ⟨hfree.1, List.not_mem_cons_of_ne_of_not_mem (Ne.symm hne) hfree.2⟩

end Model

namespace ModelScope

theorem className_isClassName (name : String) : IsClassName (className name "Model") := by
  rw [className]
  split
  · exact Naming.isClassName_identifier (c := 'M') rfl (List.all_eq_true.mp (by decide))
      (.inl (by decide))
  · next hne =>
    cases hchars : (Naming.pascal name).toList with
    | nil => exact absurd (beq_iff_eq.mpr (String.toList_eq_nil_iff.mp hchars)) hne
    | cons c rest =>
      refine Naming.isClassName_identifier hchars (fun d hd ↦ ?_) ?_
      · exact Naming.isAlphanum_of_mem_pascal (hchars ▸ hd)
      · exact Naming.isUpper_or_isDigit_of_pascalFrom (Naming.pascal_toList name ▸ hchars)

theorem claim_isClassName (scope : ModelScope) (name : String) :
    IsClassName (scope.claim name).1 :=
  (className_isClassName name).numbered _

end ModelScope

/-! ## Models -/

/-- A class that the annotation of a field mentions for an object that its property holds, or whose
lists it holds. -/
def Model.OwnClass (properties : Properties) (model : Model) (name : String) : Prop :=
  ∃ pair ∈ properties.zip model.fields,
    pair.1.2.2.element.properties ≠ [] ∧ name ∈ pair.2.type.mentioned

/-- A model no field of which has a taken name, and some field that of a class for one of its own
properties only if a property asks for it. -/
structure Model.KeepsClear (taken : List String) (properties : Properties) (model : Model) :
    Prop where
  not_taken : ∀ field ∈ model.fields, field.name ∉ taken
  own_iff : ∀ name, model.OwnClass properties name →
    ((∃ field ∈ model.fields, field.name = name) ↔
      ∃ property ∈ properties.names, Model.AsksFor property name)

theorem Model.KeepsClear.mono {taken later : List String} {properties : Properties} {model : Model}
    (h : model.KeepsClear later properties) (hsubset : taken ⊆ later) :
    model.KeepsClear taken properties :=
  ⟨fun field hfield hmem ↦ h.not_taken field hfield (hsubset hmem), h.own_iff⟩

/-- A scope with models for the given properties added to it, whose fields keep clear of the taken
names. -/
def ModelScope.Adds (taken : List String) (sources : List Properties)
    (scope final : ModelScope) : Prop :=
  ∃ added, final.models = scope.models ++ added ∧
    List.Forall₂ (fun properties (model : Model) ↦ model.KeepsClear taken properties) sources added

namespace ModelScope

variable {taken : List String} {scope middle final : ModelScope}

theorem Adds.of_models_eq (h : final.models = scope.models) : Adds taken [] scope final :=
  ⟨[], by rw [h, List.append_nil], .nil⟩

theorem Adds.trans {sources others : List Properties} (h : Adds taken sources scope middle)
    (h' : Adds taken others middle final) : Adds taken (sources ++ others) scope final := by
  obtain ⟨added, hadded, hclear⟩ := h
  obtain ⟨more, hmore, hclear'⟩ := h'
  exact ⟨added ++ more, by rw [hmore, hadded, List.append_assoc], List.rel_append hclear hclear'⟩

theorem Adds.push {sources : List Properties} (h : Adds taken sources scope final)
    {properties : Properties} {model : Model} (hmodel : model.KeepsClear taken properties) :
    Adds taken (sources ++ [properties]) scope (final.push model) :=
  h.trans ⟨[model], rfl, .cons hmodel .nil⟩

end ModelScope

namespace Schema

open ModelScope (Adds)

variable {components : ComponentNames} {taken : List String}

/-- The annotation of an object with properties, or of lists of such, mentions a class that has been
claimed for it. -/
theorem exists_claim_of_render (inModel : Bool) (hint : String) (scope : ModelScope)
    {schema : Schema} (h : schema.element.properties ≠ []) :
    ∃ name, (schema.render components inModel hint scope).1.mentioned =
      [(scope.claim name).1] := by
  induction schema using Schema.element.induct generalizing hint with
  | case1 nullable items ih =>
    obtain ⟨name, hname⟩ := ih (hint ++ "Item") h
    refine ⟨name, ?_⟩
    rw [render, TypeExpr.mentioned_orNoneIf]
    exact hname
  | case2 schema hitems =>
    rw [element.eq_2 schema hitems] at h
    cases schema with
    | object nullable properties =>
      cases properties with
      | nil => exact absurd rfl h
      | cons property rest =>
        refine ⟨hint, ?_⟩
        rw [render, TypeExpr.mentioned_orNoneIf]
        rfl
    | _ => exact absurd rfl h

/-- The classes for the properties of a model are claimed where the names of its fields have been
chosen. -/
theorem exists_claim_of_mem_zip {className name : String} {properties : Properties}
    {names : List (String × String)} {scope : ModelScope}
    {pair : (String × Bool × Schema) × ModelField}
    (hpair : pair ∈ properties.zip (renderFields components className properties names scope).1)
    (hobject : pair.1.2.2.element.properties ≠ []) (hname : name ∈ pair.2.type.mentioned) :
    ∃ start hint, scope.taken ⊆ start.taken ∧ name = (ModelScope.claim start hint).1 := by
  induction properties generalizing names scope with
  | nil => simp at hpair
  | cons property rest ih =>
    obtain ⟨property, required, schema⟩ := property
    rw [renderFields, List.zip_cons_cons] at hpair
    rcases List.mem_cons.mp hpair with rfl | hpair
    · obtain ⟨hint, hclaim⟩ := @exists_claim_of_render components true
        (className ++ Naming.pascal property) scope schema hobject
      rw [TypeExpr.mentioned_orNoneIf, hclaim, List.mem_singleton] at hname
      exact ⟨scope, hint, List.Subset.refl _, hname⟩
    · obtain ⟨start, hint, hstart, hclaim⟩ := ih hpair
      exact ⟨start, hint, fun _ hmem ↦ hstart ((render_extends true _ schema scope).taken_subset
        hmem), hclaim⟩

/-- The model of some properties, with fields named in the scope that it is rendered in. -/
theorem keepsClear_renderFields (className : String) (properties : Properties)
    (scope : ModelScope) :
    Model.KeepsClear scope.taken properties
      ⟨className,
        (renderFields components className properties
          (Model.fieldNames (properties.map Prod.fst) scope.taken) scope).1,
        Model.fieldNames (properties.map Prod.fst) scope.taken⟩ := by
  have hfields :=
    (hasFieldsFor_renderFields components className properties scope.taken scope).map_name
  constructor
  · intro field hfield hmem
    have hname : field.name ∈
        (Model.fieldNames (properties.map Prod.fst) scope.taken).map Prod.snd := by
      rw [← hfields]
      exact List.mem_map_of_mem hfield
    rw [Model.fieldNames, Model.fieldNamesFrom_eq_assigned] at hname
    obtain ⟨reserved, property, hreserved, hchosen⟩ := Naming.exists_choose_of_mem_assigned hname
    exact Model.fieldName_not_mem reserved property (hchosen ▸ hreserved hmem)
  · rintro name ⟨pair, hpair, hobject, hname⟩
    obtain ⟨start, hint, hstart, rfl⟩ := exists_claim_of_mem_zip hpair hobject hname
    have husable := start.claim_isUsable hint
    have hfree : (start.claim hint).1 ∉ Naming.keywords ++ scope.taken := by
      rw [List.mem_append, not_or]
      refine ⟨?_, fun hmem ↦ husable.not_reserved (hstart hmem)⟩
      simpa [Naming.isKeyword] using husable.not_keyword
    rw [← List.mem_map, hfields]
    exact Model.mem_fieldNames_iff (start.claim_isClassName hint) hfree _

mutual
/-- The models that rendering adds keep clear of the names that are taken before. -/
theorem render_adds (inModel : Bool) (hint : String) : (schema : Schema) → {scope : ModelScope} →
    taken ⊆ scope.taken →
    Adds taken schema.hoisted scope (schema.render components inModel hint scope).2
  | .string .., _, _ | .number .., _, _ | .boolean _, _, _ | .enumeration .., _, _ =>
    .of_models_eq rfl
  | .array _ items, _, h => render_adds inModel (hint ++ "Item") items h
  | .object _ [], _, _ => .of_models_eq rfl
  | .object _ (property :: rest), scope, h => by
    have hclaimed : taken ⊆ (scope.claim hint).2.taken := List.subset_cons_of_subset _ h
    rw [render]
    apply (renderFields_adds (scope.claim hint).1 (property :: rest) _ hclaimed).push
    exact (keepsClear_renderFields (scope.claim hint).1 (property :: rest) _).mono hclaimed
  | .ref .., _, _ | .unknown _, _, _ => .of_models_eq rfl
termination_by structural schema => schema
theorem renderFields_adds (className : String) : (properties : List (String × Bool × Schema)) →
    (names : List (String × String)) → {scope : ModelScope} → taken ⊆ scope.taken →
    Adds taken (hoistedOfAll properties) scope
      (renderFields components className properties names scope).2
  | [], _, _, _ => .of_models_eq rfl
  | (property, _, schema) :: rest, names, scope, h =>
    (render_adds true (className ++ Naming.pascal property) schema h).trans
      (renderFields_adds className rest names.tail fun _ hname ↦
        (render_extends true _ schema scope).taken_subset (h hname))
termination_by structural properties => properties
end

/-- Making a model of a schema under a class name adds models that keep clear. -/
theorem hoistAs_adds (schema : Schema) (className : String) {scope : ModelScope}
    (h : taken ⊆ scope.taken) :
    Adds taken (hoistedOfAll schema.properties ++ [schema.properties]) scope
      (schema.hoistAs components className scope) :=
  (renderFields_adds className schema.properties _ h).push
    ((keepsClear_renderFields className schema.properties scope).mono h)

end Schema

/-! ## Modules in the making -/

namespace ModelScope

/-- A scope that comes about in a module: nothing but the reserved names is taken at the start, and
then names are claimed, schemas are rendered and models are made of schemas, under claimed names or
given ones. -/
inductive IsReachable (components : ComponentNames) (reserved : List String) :
    ModelScope → Prop where
  | start : IsReachable components reserved (empty reserved)
  | claim {scope : ModelScope} (h : IsReachable components reserved scope) (name : String) :
      IsReachable components reserved (scope.claim name).2
  | render {scope : ModelScope} (h : IsReachable components reserved scope) (schema : Schema)
      (hint : String) :
      IsReachable components reserved (schema.render components false hint scope).2
  | hoist {scope : ModelScope} (h : IsReachable components reserved scope) (schema : Schema)
      (name : String) : IsReachable components reserved (schema.hoist components name scope).2
  | hoistAs {scope : ModelScope} (h : IsReachable components reserved scope) (schema : Schema)
      (className : String) :
      IsReachable components reserved (schema.hoistAs components className scope)

variable {components : ComponentNames} {reserved : List String} {scope : ModelScope}

/-- The names that annotations refer to and the reserved ones stay taken. -/
theorem IsReachable.reserved_subset (h : scope.IsReachable components reserved) :
    moduleNames ++ reserved ⊆ scope.taken := by
  induction h with
  | start => exact List.Subset.refl _
  | claim _ name ih => exact List.subset_cons_of_subset _ ih
  | render _ schema hint ih =>
    exact fun name hname ↦ (Schema.render_extends false hint schema _).taken_subset (ih hname)
  | hoist _ schema name ih =>
    exact fun other hother ↦
      (Schema.hoist_extends components schema name _).taken_subset (ih hother)
  | hoistAs _ schema className ih =>
    exact fun name hname ↦
      (Schema.renderFields_extends className schema.properties _ _).taken_subset (ih hname)

/-- Whatever a module has so far, the fields of the models that are made of a schema have no taken
name, neither one that annotations refer to nor a reserved one nor that of an earlier class. The
name of a class for a property of their own model they have exactly where a property asks for it. -/
theorem IsReachable.hoist_adds (h : scope.IsReachable components reserved) (schema : Schema)
    (name : String) :
    moduleNames ++ reserved ⊆ scope.taken ∧
      Adds scope.taken (Schema.hoistedOfAll schema.properties ++ [schema.properties]) scope
        (schema.hoist components name scope).2 ∧
      Adds scope.taken (Schema.hoistedOfAll schema.properties ++ [schema.properties]) scope
        (schema.hoistAs components name scope) := by
  refine ⟨h.reserved_subset, ?_, schema.hoistAs_adds name (List.Subset.refl _)⟩
  have hclaimed : scope.taken ⊆ (scope.claim name).2.taken := List.subset_cons_self _ _
  exact schema.hoistAs_adds _ hclaimed

/-- An object with a property for an inner object, and one that asks for the name that the class of
the inner object gets in the model `X`. -/
def shadowingObject : Schema :=
  .object false [("XA", false, .string false {}),
    ("a", true, .object false [("b", true, .string false {})])]

/-- The first field has the name of the class of the second one, and hides it from the annotation.
-/
theorem shadowingObject_hidesClass :
    let hoisted := (shadowingObject.hoist (fun _ _ ↦ none) "X" (empty [])).2
    (empty []).IsReachable (fun _ _ ↦ none) [] ∧
      Adds (empty []).taken [[("b", true, .string false {})], shadowingObject.properties] (empty [])
        hoisted ∧
      Model.AsksFor "XA" "XA" ∧
      hoisted.models.map (fun model ↦ (model.name, model.fields.map ModelField.line)) =
        [("XA", ["b: str"]), ("X", ["XA: Optional[str] = None", "a: XA"])] := by
  intro hoisted
  have hstart : (empty []).IsReachable (fun _ _ ↦ none) [] := .start
  exact ⟨hstart, (hstart.hoist_adds shadowingObject "X").2.1, by decide +kernel, by decide +kernel⟩

end ModelScope

end ApiCompiler
