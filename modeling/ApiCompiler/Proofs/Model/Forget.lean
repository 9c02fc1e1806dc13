import ApiCompiler.Package.Context
import ApiCompiler.Proofs.Model.Reading

/-!
# What models keep of schemas

The models that properties give rise to are handed on as names and texts. They can be read in their
order, each class with the ones before it in mind: the annotations are parsed, and a name in them
is a class that has been read or the expression for a component. So the properties come back, up to
what no annotation shows: the limits of a date with a time, which component a reference to nothing
names, and whether null is admitted where anything is or where a value need not be given.
-/

namespace ApiCompiler

/-! ## What is forgotten -/

/-- The constraints of a string as far as its annotation shows them. -/
def StringLimits.forget (l : StringLimits) : StringLimits :=
  if l.dateTime then { dateTime := true } else l

namespace Schema

/-- The schema with null admitted or not. No difference is made where anything is admitted. -/
def setNullable (nullable : Bool) : Schema → Schema
  | string _ limits => string nullable limits
  | number _ integer bounds => number nullable integer bounds
  | boolean _ => boolean nullable
  | enumeration _ values => enumeration nullable values
  | array _ items => array nullable items
  | object _ properties => object nullable properties
  | ref _ name => ref nullable name
  | unknown _ => unknown false

/-- The schema of a property. No difference is made between null and nothing. -/
def asProperty (required : Bool) (schema : Schema) : Schema :=
  if required then schema else schema.setNullable false

mutual
/-- The schema as far as its annotation and the models behind it show it. -/
def forget (known : String → Bool) : Schema → Schema
  | .string nullable limits => .string nullable limits.forget
  | .number nullable integer bounds => .number nullable integer bounds
  | .boolean nullable => .boolean nullable
  | .enumeration nullable values => .enumeration nullable values
  | .array nullable items => .array nullable (items.forget known)
  | .object nullable properties => .object nullable (forgetAll known properties)
  | .ref nullable name => if known name then .ref nullable name else .unknown false
  | .unknown _ => .unknown false
termination_by structural schema => schema
/-- The properties as far as the fields of their model show them. -/
def forgetAll (known : String → Bool) :
    List (String × Bool × Schema) → List (String × Bool × Schema)
  | [] => []
  | (name, required, schema) :: rest =>
    (name, required, (schema.forget known).asProperty required) :: forgetAll known rest
termination_by structural properties => properties
end

@[simp] theorem setNullable_setNullable (nullable other : Bool) (schema : Schema) :
    (schema.setNullable other).setNullable nullable = schema.setNullable nullable := by
  cases schema <;> rfl

theorem map_fst_forgetAll (known : String → Bool) (properties : List (String × Bool × Schema)) :
    (forgetAll known properties).map Prod.fst = properties.map Prod.fst := by
  induction properties with
  | nil => rfl
  | cons property rest ih => exact congrArg (property.1 :: ·) ih

end Schema

/-! ## What is forgotten makes no difference -/

namespace TypeExpr

theorem orNone_orNoneIf (condition : Bool) (a : TypeExpr) :
    (a.orNoneIf condition).orNone = a.orNone := by
  cases condition with
  | false => rfl
  | true =>
    have hadmits : a.orNone.admitsNone = true :=
      (admitsNone_orNoneIf true a).trans (Bool.or_true _)
    exact if_pos hadmits

end TypeExpr

namespace Schema

variable {components : ComponentNames}

/-- The components that have an expression inside of models. -/
def isKnown (components : ComponentNames) (name : String) : Bool :=
  (components true name).isSome

/-- The annotation of an object with properties is the name of a class that is made of it. -/
theorem render_object (inModel nullable : Bool) (hint : String)
    {properties : List (String × Bool × Schema)} (hne : properties ≠ []) (scope : ModelScope) :
    (object nullable properties).render components inModel hint scope =
      ((TypeExpr.named (scope.claim hint).1).orNoneIf nullable,
        (object nullable properties).hoistAs components (scope.claim hint).1
          (scope.claim hint).2) := by
  cases properties with
  | nil => exact absurd rfl hne
  | cons => rfl

theorem hoistAs_congr {nullable : Bool} {properties others : List (String × Bool × Schema)}
    {className : String} (hnames : properties.map Prod.fst = others.map Prod.fst)
    (hfields : ∀ names scope, renderFields components className properties names scope =
      renderFields components className others names scope) (scope : ModelScope) :
    (object nullable properties).hoistAs components className scope =
      (object nullable others).hoistAs components className scope := by
  rw [hoistAs, hoistAs]
  simp only [Schema.properties, hnames, hfields]

/-- Where nothing need be given, null makes no difference to the annotation. -/
theorem render_setNullable (inModel nullable : Bool) (hint : String) (schema : Schema)
    (scope : ModelScope) :
    ((schema.setNullable nullable).render components inModel hint scope).1.orNone =
        (schema.render components inModel hint scope).1.orNone ∧
      ((schema.setNullable nullable).render components inModel hint scope).2 =
        (schema.render components inModel hint scope).2 := by
  cases schema with
  | object other properties =>
    cases properties <;> simp [setNullable, render, TypeExpr.orNone_orNoneIf]
  | _ => simp [setNullable, render, TypeExpr.orNone_orNoneIf]

theorem render_asProperty (required : Bool) (hint : String) (schema : Schema)
    (scope : ModelScope) :
    ((schema.asProperty required).render components true hint scope).1.orNoneIf (!required) =
        (schema.render components true hint scope).1.orNoneIf (!required) ∧
      ((schema.asProperty required).render components true hint scope).2 =
        (schema.render components true hint scope).2 := by
  cases required with
  | false => exact render_setNullable true false hint schema scope
  | true => exact ⟨rfl, rfl⟩

mutual
/-- What is forgotten of a schema makes no difference to its annotation and its models. -/
theorem render_forget (hint : String) : (schema : Schema) → (scope : ModelScope) →
    (schema.forget (isKnown components)).render components true hint scope =
      schema.render components true hint scope
  | .string nullable limits, scope => by
    rw [forget, render, render, StringLimits.forget]
    split <;> simp_all
  | .number .., _ | .boolean _, _ | .enumeration .., _ => rfl
  | .array nullable items, scope => by
    rw [forget, render, render, render_forget (hint ++ "Item") items scope]
  | .object nullable [], scope => rfl
  | .object nullable (property :: rest), scope => by
    have hfields := renderFields_forgetAll (scope.claim hint).1 (property :: rest)
    have hne : forgetAll (isKnown components) (property :: rest) ≠ [] := List.cons_ne_nil _ _
    rw [forget, render_object true nullable hint hne,
      render_object true nullable hint (List.cons_ne_nil property rest),
      hoistAs_congr (map_fst_forgetAll _ _) hfields]
  | .ref nullable name, scope => by
    rw [forget, isKnown]
    split
    · rfl
    · next hunknown =>
      have hnone : components true name = none := by simpa using hunknown
      rw [render, render, hnone]
      cases nullable <;> rfl
  | .unknown nullable, scope => by cases nullable <;> rfl
termination_by structural schema => schema
theorem renderFields_forgetAll (className : String) :
    (properties : List (String × Bool × Schema)) → (names : List (String × String)) →
      (scope : ModelScope) →
      renderFields components className (forgetAll (isKnown components) properties) names scope =
        renderFields components className properties names scope
  | [], _, _ => rfl
  | (property, required, schema) :: rest, names, scope => by
    obtain ⟨htype, hscope⟩ := render_asProperty required (className ++ Naming.pascal property)
      (schema.forget (isKnown components)) scope
    rw [render_forget (className ++ Naming.pascal property) schema scope] at htype hscope
    rw [forgetAll, renderFields, renderFields]
    simp only [htype, hscope]
    rw [renderFields_forgetAll className rest]
termination_by structural properties => properties
end

end Schema

/-! ## Schemas of annotations -/

/-- The scalar of the constraint with a keyword. -/
def scalarOf? (constraints : List Constraint) (keyword : String) : Option Scalar :=
  (constraints.find? fun c ↦ c.keyword == keyword).map Constraint.value

/-- The number that a scalar is. -/
def Scalar.number? : Scalar → Option Number
  | number n => some n
  | _ => none

/-- The length that a scalar states. -/
def Scalar.length? : Scalar → Option Nat
  | number (.int n) => some n.toNat
  | _ => none

/-- The text that a scalar is. -/
def Scalar.text? : Scalar → Option String
  | text s => some s
  | _ => none

/-- The range with some constraints. -/
def Bounds.ofConstraints (constraints : List Constraint) : Bounds where
  minimum := (scalarOf? constraints "ge").bind Scalar.number?
  maximum := (scalarOf? constraints "le").bind Scalar.number?
  exclusiveMinimum := (scalarOf? constraints "gt").bind Scalar.number?
  exclusiveMaximum := (scalarOf? constraints "lt").bind Scalar.number?

/-- The limits of a string with some constraints. -/
def StringLimits.ofConstraints (constraints : List Constraint) : StringLimits where
  minLength := (scalarOf? constraints "min_length").bind Scalar.length?
  maxLength := (scalarOf? constraints "max_length").bind Scalar.length?
  pattern := (scalarOf? constraints "pattern").bind Scalar.text?

theorem Bounds.ofConstraints_constraints (b : Bounds) : ofConstraints b.constraints = b := by
  obtain ⟨minimum, maximum, exclusiveMinimum, exclusiveMaximum⟩ := b
  cases minimum <;> cases maximum <;> cases exclusiveMinimum <;> cases exclusiveMaximum
  all_goals rfl

theorem StringLimits.ofConstraints_constraints {l : StringLimits} (h : l.dateTime = false) :
    ofConstraints (l.constraints true) = l := by
  obtain ⟨minLength, maxLength, pattern, dateTime⟩ := l
  obtain rfl : dateTime = false := h
  cases minLength <;> cases maxLength <;> cases pattern
  all_goals rfl

namespace Schema

open TypeExpr (IsWord)

variable {component? : String → Option String} {classes : Named Properties}

/-- The schema that an annotation shows, given the components that expressions stand for and the
properties of the classes that have been read. -/
def ofType (component? : String → Option String) (classes : Named Properties) :
    TypeExpr → Schema
  | .any => .unknown false
  | .string => .string false {}
  | .integer => .number false true {}
  | .float => .number false false {}
  | .boolean => .boolean false
  | .dateTime => .string false { dateTime := true }
  | .dictionary => .object false []
  | .constrained .string constraints => .string false (.ofConstraints constraints)
  | .constrained .integer constraints => .number false true (.ofConstraints constraints)
  | .constrained _ constraints => .number false false (.ofConstraints constraints)
  | .choice values => .enumeration false values
  | .list items => .array false (ofType component? classes items)
  | .optional inner => (ofType component? classes inner).setNullable true
  | .named expression =>
    match component? expression with
    | some component => .ref false component
    | none => .object false ((classes.find? expression).getD [])

theorem ofType_withConstraints_string (constraints : List Constraint) :
    ofType component? classes (TypeExpr.string.withConstraints constraints) =
      .string false (.ofConstraints constraints) := by
  rw [TypeExpr.withConstraints]
  split
  · next hnil => rw [List.isEmpty_iff.mp hnil]; rfl
  · rfl

theorem ofType_withConstraints_number (integer : Bool) (constraints : List Constraint) :
    ofType component? classes
        (TypeExpr.withConstraints (if integer then .integer else .float) constraints) =
      .number false integer (.ofConstraints constraints) := by
  rw [TypeExpr.withConstraints]
  split
  · next hnil =>
    rw [List.isEmpty_iff.mp hnil]
    cases integer <;> rfl
  · cases integer <;> rfl

/-- An annotation that admits the absent value shows that null is admitted. -/
theorem ofType_orNoneIf {type : TypeExpr} (h : type.HasShape IsWord) (condition : Bool) :
    ofType component? classes (type.orNoneIf condition) =
      if condition then (ofType component? classes type).setNullable true
      else ofType component? classes type := by
  cases condition with
  | false => rfl
  | true =>
    rw [TypeExpr.orNoneIf, if_pos rfl, if_pos rfl, TypeExpr.orNone]
    split
    · next hadmits =>
      cases h with
      | any => rfl
      | optional _ => rw [ofType, setNullable_setNullable]
      | named hword => rw [hword.admitsNone] at hadmits; cases hadmits
      | _ => cases hadmits
    · rfl

/-- Of a value that need not be given, the annotation shows no null. -/
theorem asProperty_ofType_orNoneIf {type : TypeExpr} (h : type.HasShape IsWord)
    (required : Bool) :
    (ofType component? classes (type.orNoneIf (!required))).asProperty required =
      (ofType component? classes type).asProperty required := by
  rw [ofType_orNoneIf h]
  cases required with
  | false => exact setNullable_setNullable false true _
  | true => rfl

/-! ## Properties of classes -/

/-- The properties that fields show. -/
def ofFields (component? : String → Option String) (classes : Named Properties)
    (fields : List ModelField) : Properties :=
  fields.map fun f ↦
    (f.property, f.required, (ofType component? classes f.type).asProperty f.required)

/-- The properties that models show, each read with the ones before it in mind. -/
def ofModels (component? : String → Option String) (models : List Model) : Named Properties :=
  models.foldl (fun classes model ↦
    classes ++ [(model.name, ofFields component? classes model.fields)]) []

theorem ofModels_concat (models : List Model) (model : Model) :
    ofModels component? (models ++ [model]) = ofModels component? models ++
      [(model.name, ofFields component? (ofModels component? models) model.fields)] := by
  rw [ofModels, List.foldl_append]
  rfl

/-- What has been read stays when further models are read. -/
theorem ofModels_isPrefix_append (models added : List Model) :
    ofModels component? models <+: ofModels component? (models ++ added) := by
  induction added using List.reverseRecOn with
  | nil => rw [List.append_nil]
  | append_singleton added model ih =>
    rw [← List.append_assoc, ofModels_concat]
    exact ih.trans (List.prefix_append ..)

theorem names_ofModels (component? : String → Option String) (models : List Model) :
    (ofModels component? models).names = models.map Model.name := by
  induction models using List.reverseRecOn with
  | nil => rfl
  | append_singleton models model ih =>
    rw [ofModels_concat, List.map_append, ← ih, Named.names, List.map_append]
    rfl

end Schema

/-! ## Expressions for components -/

namespace ComponentNames

/-- Expressions for components by a name in the module of components, each for one of them. -/
structure IsQualified (components : ComponentNames) : Prop where
  qualified : ∀ {inModel component expression}, components inModel component = some expression →
    ∃ name, Text.isIdentifier name = true ∧ expression = "schemas." ++ name
  injective : ∀ {inModel component other expression},
    components inModel component = some expression →
      components inModel other = some expression → component = other

/-- A way to tell which component an expression inside of models stands for. -/
structure IsReadBy (components : ComponentNames) (component? : String → Option String) :
    Prop where
  found : ∀ {component expression}, components true component = some expression →
    component? expression = some component
  none_of_isIdentifier : ∀ {name}, Text.isIdentifier name = true → component? name = none

variable {components : ComponentNames}

theorem isIdentifier_ne_qualified {name other : String} (h : Text.isIdentifier name = true) :
    name ≠ "schemas." ++ other := by
  rintro rfl
  have hpoint : '.' ∈ ("schemas." ++ other).toList := by simp
  exact absurd (Text.isNameChar_of_isIdentifier h _ hpoint) (by decide)

theorem IsQualified.exists_isReadBy (h : components.IsQualified) :
    ∃ component?, components.IsReadBy component? := by
  classical
  refine ⟨fun expression ↦
    if hknown : ∃ component, components true component = some expression then some hknown.choose
    else none, ?_, ?_⟩
  · intro component expression hfound
    have hknown : ∃ component, components true component = some expression := ⟨_, hfound⟩
    rw [dif_pos hknown, h.injective hknown.choose_spec hfound]
  · intro name hname
    refine dif_neg ?_
    rintro ⟨component, hfound⟩
    obtain ⟨other, -, rfl⟩ := h.qualified hfound
    exact isIdentifier_ne_qualified hname rfl

end ComponentNames

/-- Classes and components are words in annotations. -/
theorem IsNameFor.isWord {components : ComponentNames} (hcomponents : components.IsQualified)
    {reserved : List String} {scope : ModelScope}
    (hscope : (ModelScope.empty reserved).Extends scope) {expression : String}
    (h : IsNameFor components scope.models expression) : TypeExpr.IsWord expression := by
  have hchars {name : String} (hname : Text.isIdentifier name = true) :
      ∀ c ∈ name.toList, TypeExpr.isWordChar c = true := fun c hc ↦ by
    rw [TypeExpr.isWordChar, Text.isNameChar_of_isIdentifier hname c hc, Bool.true_or]
  cases h with
  | model isIdentifier mem =>
    refine ⟨hchars isIdentifier, fun hmodule ↦ ?_⟩
    obtain ⟨model, hmodel, rfl⟩ := List.mem_map.mp mem
    obtain ⟨-, added, hadded, -, hnames⟩ := hscope
    rw [hadded] at hmodel
    exact (hnames model hmodel).1 (List.mem_append_left _ hmodule)
  | component inModel component found =>
    obtain ⟨name, hname, rfl⟩ := hcomponents.qualified found
    have hmodule : ∀ c ∈ "schemas.".toList, TypeExpr.isWordChar c = true :=
      List.all_eq_true.mp (by decide)
    constructor
    · rw [String.toList_append]
      exact List.forall_mem_append.mpr ⟨hmodule, hchars hname⟩
    · intro hmem
      have hidentifiers : ∀ name ∈ moduleNames, Text.isIdentifier name = true := by decide
      exact ComponentNames.isIdentifier_ne_qualified (hidentifiers _ hmem) rfl

/-! ## Reading models back -/

namespace Schema

open ModelScope (Extends)
open TypeExpr (IsWord)

variable {components : ComponentNames} {component? : String → Option String}
  {reserved : List String}

theorem extends_claim (scope : ModelScope) (hint : String) :
    scope.Extends (scope.claim hint).2 :=
  ⟨List.subset_cons_self .., [], (List.append_nil _).symm, .nil, nofun⟩

theorem hasShape_render (hcomponents : components.IsQualified) {scope : ModelScope}
    (hscope : (ModelScope.empty reserved).Extends scope) (inModel : Bool) (hint : String)
    (schema : Schema) :
    (schema.render components inModel hint scope).1.HasShape IsWord := by
  obtain ⟨added, -, hshape, -⟩ := @render_yields components inModel hint schema scope
  refine (hshape _ (List.mem_append_left _ (List.mem_singleton_self _))).mono fun e he ↦ ?_
  exact he.isWord hcomponents (hscope.trans (schema.render_extends inModel hint scope))

/-- The last class of a model that is made has the properties that its fields show. -/
theorem exists_ofModels_hoistAs (nullable : Bool) {properties shown : List (String × Bool × Schema)}
    {className : String} {scope : ModelScope}
    (hfields : ∀ names classes,
      ofModels component? (renderFields components className properties names scope).2.models <+:
          classes →
        ofFields component? classes (renderFields components className properties names scope).1 =
          shown) :
    ∃ classes, ofModels component?
        ((object nullable properties).hoistAs components className scope).models =
      classes ++ [(className, shown)] := by
  have hshown := hfields (Model.fieldNames (properties.map Prod.fst) scope.taken) _
    (List.prefix_refl _)
  rw [hoistAs]
  simp only [ModelScope.push, ofModels_concat, Schema.properties, hshown]
  exact ⟨_, rfl⟩

/-- The class that has been read last is found under its name. -/
theorem find?_of_ofModels {models : List Model} (hnodup : (models.map Model.name).Nodup)
    {earlier classes : Named Properties} {found : String × Properties}
    (h : ofModels component? models = earlier ++ [found])
    (hclasses : ofModels component? models <+: classes) :
    found.1 ∈ models.map Model.name ∧ classes.find? found.1 = some found.2 := by
  have hnames := names_ofModels component? models
  have hmem : found ∈ earlier ++ [found] := List.mem_append_right _ (List.mem_singleton_self _)
  rw [h] at hclasses hnames
  rw [← hnames] at hnodup ⊢
  have hfound := Named.find?_of_mem hnodup hmem
  exact ⟨List.mem_map_of_mem hmem, Named.find?_of_isPrefix hclasses hfound⟩

mutual
/-- An annotation and the models that come with it show the schema, up to what is forgotten. -/
theorem ofType_render (hcomponents : components.IsQualified)
    (hread : components.IsReadBy component?) (hint : String) :
    (schema : Schema) → {scope : ModelScope} → (ModelScope.empty reserved).Extends scope →
      {classes : Named Properties} →
      ofModels component? (schema.render components true hint scope).2.models <+: classes →
      ofType component? classes (schema.render components true hint scope).1 =
        schema.forget (isKnown components)
  | .string nullable limits, scope, _, classes, _ => by
    rw [render, forget, StringLimits.forget]
    cases hdate : limits.dateTime with
    | true =>
      rw [if_pos rfl, ofType_orNoneIf .dateTime]
      cases nullable <;> rfl
    | false =>
      rw [if_neg Bool.false_ne_true, ofType_orNoneIf (limits.hasShape true),
        ofType_withConstraints_string, StringLimits.ofConstraints_constraints hdate]
      cases nullable <;> rfl
  | .number nullable integer bounds, scope, _, classes, _ => by
    rw [render, ofType_orNoneIf (bounds.hasShape integer), ofType_withConstraints_number,
      bounds.ofConstraints_constraints]
    cases nullable <;> rfl
  | .boolean nullable, _, _, _, _ => by cases nullable <;> rfl
  | .enumeration nullable values, _, _, _, _ => by cases nullable <;> rfl
  | .array nullable items, scope, hscope, classes, hclasses => by
    have hshape := hasShape_render hcomponents hscope true (hint ++ "Item") items
    have hitems := ofType_render hcomponents hread (hint ++ "Item") items hscope hclasses
    rw [render, ofType_orNoneIf hshape.list, ofType, hitems, forget]
    cases nullable <;> rfl
  | .object nullable [], _, _, _, _ => by cases nullable <;> rfl
  | .object nullable (property :: rest), scope, hscope, classes, hclasses => by
    have hfields := ofFields_renderFields hcomponents hread (scope.claim hint).1 (property :: rest)
      (hscope.trans (extends_claim scope hint))
    have hfinal := hscope.trans
      (@render_extends components true hint (.object nullable (property :: rest)) scope)
    rw [render_object true nullable hint (List.cons_ne_nil _ _)] at hclasses hfinal ⊢
    obtain ⟨earlier, hearlier⟩ := exists_ofModels_hoistAs nullable hfields
    obtain ⟨hmem, hfind⟩ := find?_of_ofModels hfinal.names_nodup hearlier hclasses
    have hidentifier := (scope.claim_isUsable hint).isIdentifier
    have hword := (IsNameFor.model hidentifier hmem).isWord hcomponents hfinal
    rw [ofType_orNoneIf (.named hword), ofType, hread.none_of_isIdentifier hidentifier]
    simp only [hfind]
    cases nullable <;> rfl
  | .ref nullable name, scope, hscope, classes, hclasses => by
    rw [render, forget, isKnown]
    cases hfound : components true name with
    | none => cases nullable <;> rfl
    | some expression =>
      have hword : IsWord expression :=
        (IsNameFor.component true name hfound).isWord hcomponents hscope
      have hne : (expression == "") = false := by
        obtain ⟨other, -, rfl⟩ := hcomponents.qualified hfound
        simp
      have htype : componentType (some expression) = .named expression := by
        rw [componentType, hne]
        rfl
      rw [htype, ofType_orNoneIf (.named hword), ofType, hread.found hfound]
      cases nullable <;> rfl
  | .unknown nullable, _, _, _, _ => by cases nullable <;> rfl
termination_by structural schema => schema
/-- The fields of a model show the properties, up to what is forgotten. -/
theorem ofFields_renderFields (hcomponents : components.IsQualified)
    (hread : components.IsReadBy component?) (className : String) :
    (properties : List (String × Bool × Schema)) → {scope : ModelScope} →
      (ModelScope.empty reserved).Extends scope →
      (names : List (String × String)) → (classes : Named Properties) →
      ofModels component? (renderFields components className properties names scope).2.models <+:
        classes →
      ofFields component? classes (renderFields components className properties names scope).1 =
        forgetAll (isKnown components) properties
  | [], _, _, _, _, _ => rfl
  | (property, required, schema) :: rest, scope, hscope, names, classes, hclasses => by
    have hfirst := hscope.trans
      (@render_extends components true (className ++ Naming.pascal property) schema scope)
    have hshape := hasShape_render hcomponents hscope true (className ++ Naming.pascal property)
      schema
    have hrest := ofFields_renderFields hcomponents hread className rest hfirst names.tail classes
      hclasses
    obtain ⟨-, added, hadded, -⟩ := @renderFields_extends components className rest names.tail
      (schema.render components true (className ++ Naming.pascal property) scope).2
    rw [renderFields, hadded] at hclasses
    have hschema := ofType_render hcomponents hread (className ++ Naming.pascal property) schema
      hscope ((ofModels_isPrefix_append _ added).trans hclasses)
    rw [renderFields, ofFields, List.map_cons, asProperty_ofType_orNoneIf hshape, hschema]
    exact congrArg _ hrest
termination_by structural properties => properties
end

end Schema

/-! ## Models as they are handed on -/

/-- A field as it is handed on. -/
structure WrittenField where
  /-- The name in the generated class. -/
  name : String
  /-- The property that it stands for. -/
  property : String
  /-- The text of its annotation. -/
  annotation : String
  /-- The text that it is initialised with. -/
  default? : Option String
  /-- Whether it has to be given. -/
  required : Bool
  /-- Its declaration. -/
  line : String
  deriving DecidableEq

/-- A generated class as it is handed on. -/
structure WrittenModel where
  /-- The class name. -/
  name : String
  /-- The fields in order. -/
  fields : List WrittenField
  /-- The field name of each property. -/
  names : Named String
  /-- Whether some field is known to callers under another name. -/
  hasAliases : Bool
  deriving DecidableEq

/-- The field as it is handed on. -/
def ModelField.written (f : ModelField) : WrittenField :=
  ⟨f.name, f.property, f.type.text, f.default?, f.required, f.line⟩

/-- The class as it is handed on. -/
def Model.written (m : Model) : WrittenModel :=
  ⟨m.name, m.fields.map ModelField.written, m.names, m.hasAliases⟩

/-- The classes of a module as they are handed on. -/
def ModelScope.written (scope : ModelScope) : List WrittenModel :=
  scope.models.map Model.written

/-- The field that has been handed on. -/
def WrittenField.read (f : WrittenField) : ModelField :=
  ⟨f.name, f.property, (TypeExpr.parse? f.annotation).getD .any, f.required⟩

/-- The class that has been handed on. -/
def WrittenModel.read (m : WrittenModel) : Model :=
  ⟨m.name, m.fields.map WrittenField.read, m.names⟩

/-- A class whose annotations can be read. -/
def Model.IsLegible (m : Model) : Prop :=
  ∀ type ∈ m.types, type.HasShape TypeExpr.IsWord ∧ ∀ s ∈ type.scalars, s.isFinite = true

theorem Model.IsLegible.read_written {m : Model} (h : m.IsLegible) : m.written.read = m := by
  have hfield (f : ModelField) (hf : f ∈ m.fields) : f.written.read = f := by
    obtain ⟨hshape, hfinite⟩ := h f.type (List.mem_map_of_mem hf)
    rw [ModelField.written, WrittenField.read, hshape.parse?_text hfinite, Option.getD_some]
  have hfields : (m.fields.map ModelField.written).map WrittenField.read = m.fields := by
    rw [List.map_map]
    exact (List.map_congr_left hfield).trans (List.map_id _)
  rw [written, WrittenModel.read, hfields]

/-- Classes whose annotations can be read are no more than what is handed on. -/
theorem ModelScope.map_read_written {scope : ModelScope} (h : ∀ m ∈ scope.models, m.IsLegible) :
    scope.written.map WrittenModel.read = scope.models := by
  rw [written, List.map_map]
  exact (List.map_congr_left fun m hm ↦ (h m hm).read_written).trans (List.map_id _)

namespace Schema

open ModelScope (Extends)
open TypeExpr (IsWord)

variable {components : ComponentNames} {reserved : List String}

theorem isLegible_of_mem_hoistAs (hcomponents : components.IsQualified) {nullable : Bool}
    {properties : Properties} (hfinite : ∀ s ∈ scalarsOfAll properties, s.isFinite = true)
    (className : String) {scope : ModelScope} (hscope : (ModelScope.empty reserved).Extends scope)
    (hmodels : scope.models = []) :
    ∀ m ∈ ((object nullable properties).hoistAs components className scope).models,
      m.IsLegible := by
  let names := Model.fieldNames (properties.map Prod.fst) scope.taken
  let rendered := renderFields components className properties names scope
  obtain ⟨added, hadded, hshape, hperm⟩ :=
    @renderFields_yields components className properties names scope
  have hfinal : (ModelScope.empty reserved).Extends rendered.2 :=
    hscope.trans (renderFields_extends className properties names scope)
  have hlegible (type : TypeExpr)
      (htype : type ∈ rendered.1.map ModelField.type ++ added.flatMap Model.types) :
      type.HasShape IsWord ∧ ∀ s ∈ type.scalars, s.isFinite = true := by
    refine ⟨(hshape type htype).mono fun e he ↦ he.isWord hcomponents hfinal, fun s hs ↦ ?_⟩
    exact hfinite s (hperm.mem_iff.mp (List.mem_flatMap_of_mem htype hs))
  rw [hmodels, List.nil_append] at hadded
  intro m hm type htype
  refine hlegible type (List.mem_append.mpr ?_)
  rcases List.mem_append.mp hm with hm | hm
  · exact .inr (List.mem_flatMap_of_mem (hadded ▸ hm) htype)
  · rw [List.mem_singleton.mp hm] at htype
    exact .inl htype

theorem hoistAs_forgetAll (nullable : Bool) (properties : Properties) (className : String)
    (scope : ModelScope) :
    (object nullable (forgetAll (isKnown components) properties)).hoistAs components className
        scope =
      (object nullable properties).hoistAs components className scope :=
  hoistAs_congr (map_fst_forgetAll _ _) (renderFields_forgetAll className properties) scope

/-- The models of two objects are handed on as the same ones exactly when the objects differ in what
is forgotten only. -/
theorem written_hoistAs_eq_iff (hcomponents : components.IsQualified)
    {properties others : Properties}
    (hproperties : ∀ s ∈ scalarsOfAll properties, s.isFinite = true)
    (hothers : ∀ s ∈ scalarsOfAll others, s.isFinite = true) (className : String)
    {scope : ModelScope} (hscope : (ModelScope.empty reserved).Extends scope)
    (hmodels : scope.models = []) :
    ((object false properties).hoistAs components className scope).written =
        ((object false others).hoistAs components className scope).written ↔
      (object false properties).forget (isKnown components) =
        (object false others).forget (isKnown components) := by
  rw [forget, forget]
  constructor
  · intro h
    obtain ⟨component?, hread⟩ := hcomponents.exists_isReadBy
    have hmodels' : ((object false properties).hoistAs components className scope).models =
        ((object false others).hoistAs components className scope).models := by
      rw [← ModelScope.map_read_written
          (isLegible_of_mem_hoistAs hcomponents hproperties className hscope hmodels), h,
        ModelScope.map_read_written
          (isLegible_of_mem_hoistAs hcomponents hothers className hscope hmodels)]
    obtain ⟨classes, hclasses⟩ := exists_ofModels_hoistAs false
      (ofFields_renderFields hcomponents hread className properties hscope)
    obtain ⟨classes', hclasses'⟩ := exists_ofModels_hoistAs false
      (ofFields_renderFields hcomponents hread className others hscope)
    rw [hmodels', hclasses'] at hclasses
    obtain ⟨-, hlast⟩ := List.append_inj' hclasses rfl
    obtain ⟨-, hshown⟩ := Prod.mk.inj (List.singleton_inj.mp hlast)
    rw [hshown]
  · intro h
    rw [← hoistAs_forgetAll false properties, h, hoistAs_forgetAll]

/-- Two objects give rise to the same models exactly when they differ in what is forgotten only,
whether the class name is claimed for them or has been claimed before. -/
theorem written_eq_iff_forget_eq (hcomponents : components.IsQualified)
    {properties others : Properties}
    (hproperties : ∀ s ∈ scalarsOfAll properties, s.isFinite = true)
    (hothers : ∀ s ∈ scalarsOfAll others, s.isFinite = true) (reserved : List String)
    (name : String) :
    (((object false properties).hoist components name (.empty reserved)).2.written =
          ((object false others).hoist components name (.empty reserved)).2.written ↔
        (object false properties).forget (isKnown components) =
          (object false others).forget (isKnown components)) ∧
      (((object false properties).hoistAs components name (.empty reserved)).written =
          ((object false others).hoistAs components name (.empty reserved)).written ↔
        (object false properties).forget (isKnown components) =
          (object false others).forget (isKnown components)) := by
  let start := ModelScope.empty reserved
  constructor
  · exact written_hoistAs_eq_iff hcomponents hproperties hothers (start.claim name).1
      (extends_claim start name) rfl
  · exact written_hoistAs_eq_iff hcomponents hproperties hothers name (Extends.refl start) rfl

end Schema

namespace Package

/-- A router module has expressions of this kind for components. -/
theorem qualifiedComponents_isQualified (components : List String) :
    (qualifiedComponents (classNames components)).IsQualified := by
  constructor
  · intro _ component expression h
    obtain ⟨name, hname, rfl⟩ := Option.map_eq_some_iff.mp h
    have hmem := List.mem_map_of_mem (f := Prod.snd) (Named.mem_of_find? hname)
    exact ⟨name, (classNames_isUsable hmem).isIdentifier, rfl⟩
  · intro _ component other expression h hother
    obtain ⟨name, hname, rfl⟩ := Option.map_eq_some_iff.mp h
    obtain ⟨name', hname', heq⟩ := Option.map_eq_some_iff.mp hother
    obtain rfl : name' = name := (String.append_right_inj _).mp heq
    exact Named.eq_of_find?_eq (classNames_values_nodup components) hname hname'

end Package

/-- A visit, with more detail than its model has. -/
def detailedVisit : Properties :=
  [("time", true, .string false { minLength := some 20, pattern := some "Z$", dateTime := true }),
    ("pet", true, .ref false "Pet"),
    ("clinic", true, .ref true "Clinic"),
    ("notes", true, .array false (.unknown true)),
    ("weight", true, .number false false { exclusiveMinimum := some (.int 0) }),
    ("bill", false, .object true [("paid", true, .boolean false)])]

/-- The same visit, with as much detail as its model has. -/
def plainVisit : Properties :=
  [("time", true, .string false { dateTime := true }),
    ("pet", true, .ref false "Pet"),
    ("clinic", true, .unknown false),
    ("notes", true, .array false (.unknown false)),
    ("weight", true, .number false false { exclusiveMinimum := some (.int 0) }),
    ("bill", false, .object false [("paid", true, .boolean false)])]

/-- The models do not tell the visits apart, where pets are the only known component. They do when
null is admitted for the pet. -/
theorem visits_written_eq :
    let components := Package.qualifiedComponents (Package.classNames ["Pet"])
    let written (properties : Properties) :=
      ((Schema.object false properties).hoist components "Visit" (.empty [])).2.written
    written detailedVisit = written plainVisit ∧
      written plainVisit ≠ written (plainVisit.put "pet" (true, .ref true "Pet")) := by
  have hcomponents := Package.qualifiedComponents_isQualified ["Pet"]
  have hfinite : ∀ properties ∈
      [detailedVisit, plainVisit, plainVisit.put "pet" (true, .ref true "Pet")],
      ∀ s ∈ Schema.scalarsOfAll properties, s.isFinite = true := by
    decide
  constructor
  · exact (Schema.written_eq_iff_forget_eq hcomponents (hfinite _ (by simp)) (hfinite _ (by simp))
      [] "Visit").1.mpr rfl
  · intro h
    have hforget := (Schema.written_eq_iff_forget_eq hcomponents (hfinite _ (by simp))
      (hfinite _ (by simp)) [] "Visit").1.mp h
    have hpet := congrArg
      (fun schema ↦ (schema.properties.find? "pet").map fun entry ↦ entry.2.nullable) hforget
    exact absurd hpet (by decide)

end ApiCompiler
