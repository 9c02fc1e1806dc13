import ApiCompiler.Schema
import ApiCompiler.Value.Literal

/-!
# Type annotations

The annotations of the generated code as expressions, and their text. An annotation that already
admits the absent value is not made optional again.
-/

namespace ApiCompiler

/-- A constraint as an argument with a literal. -/
structure Constraint where
  /-- The keyword. -/
  keyword : String
  /-- The literal. -/
  value : Scalar
  deriving DecidableEq

/-- A type annotation. -/
inductive TypeExpr where
  | any
  | string
  | integer
  | float
  | boolean
  | dateTime
  | dictionary
  | constrained (base : TypeExpr) (constraints : List Constraint)
  | choice (values : List Scalar)
  | list (items : TypeExpr)
  | optional (inner : TypeExpr)
  | named (expression : String)

/-- The literal of a scalar. -/
def Scalar.literal (s : Scalar) : String :=
  s.toValue.literal

/-- A constraint as it is written. -/
def Constraint.text (c : Constraint) : String :=
  c.keyword ++ "=" ++ c.value.literal

namespace TypeExpr

/-- The text of an annotation. -/
def text : TypeExpr → String
  | any => "Any"
  | string => "str"
  | integer => "int"
  | float => "float"
  | boolean => "bool"
  | dateTime => "datetime"
  | dictionary => "dict[str, Any]"
  | constrained base constraints =>
    "Annotated[" ++ base.text ++ ", Field(" ++ ", ".intercalate (constraints.map Constraint.text) ++
      ")]"
  | choice values => "Literal[" ++ ", ".intercalate (values.map Scalar.literal) ++ "]"
  | list items => "list[" ++ items.text ++ "]"
  | optional inner => "Optional[" ++ inner.text ++ "]"
  | named expression => expression

/-- An annotation whose text shows that it admits the absent value. -/
def admitsNone : TypeExpr → Bool
  | any => true
  | optional _ => true
  | named expression => expression == "Any" || "Optional[".toList.isPrefixOf expression.toList
  | _ => false

/-- The annotation with the absent value admitted. -/
def orNone (a : TypeExpr) : TypeExpr :=
  if a.admitsNone then a else optional a

/-- The annotation, with the absent value admitted on a condition. -/
def orNoneIf (condition : Bool) (a : TypeExpr) : TypeExpr :=
  if condition then a.orNone else a

/-- A base with constraints, or the base alone without any. -/
def withConstraints (base : TypeExpr) (constraints : List Constraint) : TypeExpr :=
  if constraints.isEmpty then base else constrained base constraints

end TypeExpr

end ApiCompiler
