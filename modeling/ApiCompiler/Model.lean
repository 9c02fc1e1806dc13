import ApiCompiler.Model.TypeExpr
import ApiCompiler.Model.FieldName
import ApiCompiler.Naming.Spelling

/-!
# Models

The classes of a generated module. Rendering a schema gives its annotation; every object with
properties that it meets becomes a model of the module, inner models before the ones that use them.
A class name that is taken gets a number.
-/

namespace ApiCompiler

/-- The names that annotations and class bodies of a generated module refer to. -/
def moduleNames : List String :=
  ["Annotated", "Any", "Literal", "Optional", "BaseModel", "ConfigDict", "Field", "datetime", "str",
    "int", "float", "bool", "list", "dict"]

/-- A field of a model. -/
structure ModelField where
  /-- The name in the generated class. -/
  name : String
  /-- The property that it stands for. -/
  property : String
  /-- Its type. -/
  type : TypeExpr
  /-- Whether it has to be given. -/
  required : Bool

/-- A generated class. -/
structure Model where
  /-- The class name. -/
  name : String
  /-- The fields in order. -/
  fields : List ModelField
  /-- The field name of each property. -/
  names : Named String

namespace ModelField

/-- Whether the field is known to callers under another name. -/
def hasAlias (f : ModelField) : Bool :=
  f.name != f.property

/-- What the field is initialised with. -/
def default? (f : ModelField) : Option String :=
  if f.required then
    if f.hasAlias then some ("Field(alias=" ++ Text.literal f.property ++ ")") else none
  else if f.hasAlias then some ("Field(default=None, alias=" ++ Text.literal f.property ++ ")")
  else some "None"

/-- The declaration of the field. -/
def line (f : ModelField) : String :=
  f.name ++ ": " ++ f.type.text ++ (f.default?.elim "" fun d ↦ " = " ++ d)

end ModelField

/-- Whether some field is known to callers under another name. -/
def Model.hasAliases (m : Model) : Bool :=
  m.fields.any ModelField.hasAlias

/-- The names taken in a generated module and the models it has so far. -/
structure ModelScope where
  /-- Names that a new class must not have. -/
  taken : List String
  /-- The models in dependency order. -/
  models : List Model

namespace ModelScope

/-- The scope of a module that also refers to the reserved names. -/
def empty (reserved : List String) : ModelScope :=
  ⟨moduleNames ++ reserved, []⟩

/-- The class name that a text asks for. -/
def className (name fallback : String) : String :=
  let base := Naming.pascal name
  Naming.identifier (if base == "" then fallback else base) []

/-- Takes the first free class name for a text. -/
def claim (scope : ModelScope) (name : String) : String × ModelScope :=
  let claimed := Naming.firstFree scope.taken (Naming.numbered (className name "Model") "")
  (claimed, { scope with taken := claimed :: scope.taken })

/-- Adds a model. -/
def push (scope : ModelScope) (model : Model) : ModelScope :=
  { scope with models := scope.models ++ [model] }

end ModelScope

/-- The constraint of an optional bound. -/
def boundConstraint (keyword : String) (bound : Option Number) : List Constraint :=
  (bound.map fun n ↦ Constraint.mk keyword (.number n)).toList

/-- The constraints of a range. -/
def Bounds.constraints (b : Bounds) : List Constraint :=
  boundConstraint "ge" b.minimum ++ boundConstraint "le" b.maximum ++
    boundConstraint "gt" b.exclusiveMinimum ++ boundConstraint "lt" b.exclusiveMaximum

/-- The constraint of an optional length. -/
def lengthConstraint (keyword : String) (length : Option Nat) : List Constraint :=
  (length.map fun n ↦ Constraint.mk keyword (.number (.int n))).toList

/-- The constraints of a string. Only a model selects the engine that patterns need. -/
def StringLimits.constraints (inModel : Bool) (l : StringLimits) : List Constraint :=
  lengthConstraint "min_length" l.minLength ++ lengthConstraint "max_length" l.maxLength ++
    (if inModel then (l.pattern.map fun p ↦ Constraint.mk "pattern" (.text p)).toList else [])

/-- The expression for a component, given whether it is used inside a model. -/
abbrev ComponentNames := (inModel : Bool) → String → Option String

/-- The annotation of a component; one that cannot be named admits anything. -/
def componentType : Option String → TypeExpr
  | none => .any
  | some expression => if expression == "" then .any else .named expression

namespace Schema

mutual
/-- The annotation of a schema, and the scope with the models it gives rise to. The hint names them.
-/
def render (components : ComponentNames) (inModel : Bool) (hint : String) :
    Schema → ModelScope → TypeExpr × ModelScope
  | .string nullable limits, scope =>
    let base :=
      if limits.dateTime then .dateTime
      else TypeExpr.withConstraints .string (limits.constraints inModel)
    (base.orNoneIf nullable, scope)
  | .number nullable integer bounds, scope =>
    let base := TypeExpr.withConstraints (if integer then .integer else .float) bounds.constraints
    (base.orNoneIf nullable, scope)
  | .boolean nullable, scope => (TypeExpr.boolean.orNoneIf nullable, scope)
  | .enumeration nullable values, scope => ((TypeExpr.choice values).orNoneIf nullable, scope)
  | .array nullable items, scope =>
    let (inner, scope) := render components inModel (hint ++ "Item") items scope
    ((TypeExpr.list inner).orNoneIf nullable, scope)
  | .object nullable [], scope => (TypeExpr.dictionary.orNoneIf nullable, scope)
  | .object nullable (property :: rest), scope =>
    let (className, scope) := scope.claim hint
    let names := Model.fieldNames ((property :: rest).map Prod.fst) scope.taken
    let (fields, scope) := renderFields components className (property :: rest) names scope
    ((TypeExpr.named className).orNoneIf nullable, scope.push ⟨className, fields, names⟩)
  | .ref nullable name, scope =>
    ((componentType (components inModel name)).orNoneIf nullable, scope)
  | .unknown nullable, scope => (TypeExpr.any.orNoneIf nullable, scope)
termination_by structural s => s
/-- The fields of a model for its properties, given the names of the fields. -/
def renderFields (components : ComponentNames) (className : String) :
    List (String × Bool × Schema) → List (String × String) → ModelScope →
      List ModelField × ModelScope
  | [], _, scope => ([], scope)
  | (property, required, schema) :: rest, names, scope =>
    let (type, scope) :=
      render components true (className ++ Naming.pascal property) schema scope
    let name := (names.head?.map Prod.snd).getD property
    let field : ModelField := ⟨name, property, type.orNoneIf (!required), required⟩
    let (fields, scope) := renderFields components className rest names.tail scope
    (field :: fields, scope)
termination_by structural ps => ps
end

/-- The properties of an object; other schemas have none. -/
def properties : Schema → Properties
  | .object _ ps => ps
  | _ => []

/-- Makes a model of a schema under a class name. A schema without properties becomes an empty
model. -/
def hoistAs (components : ComponentNames) (schema : Schema) (className : String)
    (scope : ModelScope) : ModelScope :=
  let properties := schema.properties
  let names := Model.fieldNames (properties.map Prod.fst) scope.taken
  let (fields, scope) := renderFields components className properties names scope
  scope.push ⟨className, fields, names⟩

/-- Makes a model of a schema under the first free class name for a text. -/
def hoist (components : ComponentNames) (schema : Schema) (name : String) (scope : ModelScope) :
    String × ModelScope :=
  let (className, scope) := scope.claim name
  (className, hoistAs components schema className scope)

end Schema

end ApiCompiler
