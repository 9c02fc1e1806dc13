import ApiCompiler.Named
import ApiCompiler.Value

/-!
# Schemas

What the compiler knows about the shape of a value: the kinds of schema that the generated code can
express, each with a flag that admits null. Anything else is the unknown schema. Two schemas are the
same when their parts are; amounts compare as numbers and the order of properties does not matter.
-/

namespace ApiCompiler

/-- A bound of a range. -/
inductive Number where
  | int (n : Int)
  | float (x : Binary64)
  deriving DecidableEq

/-- A value that a literal type can list. -/
inductive Scalar where
  | text (s : String)
  | bool (b : Bool)
  | number (n : Number)
  deriving DecidableEq

/-- The constraints of a string. -/
structure StringLimits where
  /-- The least length. -/
  minLength : Option Nat := none
  /-- The greatest length. -/
  maxLength : Option Nat := none
  /-- A regular expression to search for. -/
  pattern : Option String := none
  /-- Whether the string is a date with a time. -/
  dateTime : Bool := false
  deriving DecidableEq

/-- The constraints of a number. -/
structure Bounds where
  /-- An inclusive lower bound. -/
  minimum : Option Number := none
  /-- An inclusive upper bound. -/
  maximum : Option Number := none
  /-- An exclusive lower bound. -/
  exclusiveMinimum : Option Number := none
  /-- An exclusive upper bound. -/
  exclusiveMaximum : Option Number := none
  deriving DecidableEq

/-- The shape of a value. -/
inductive Schema where
  | string (nullable : Bool) (limits : StringLimits)
  | number (nullable integer : Bool) (bounds : Bounds)
  | boolean (nullable : Bool)
  | enumeration (nullable : Bool) (values : List Scalar)
  | array (nullable : Bool) (items : Schema)
  | object (nullable : Bool) (properties : List (String × Bool × Schema))
  | ref (nullable : Bool) (name : String)
  | unknown (nullable : Bool)

/-- The properties of an object: names with a required flag and a schema. -/
abbrev Properties := Named (Bool × Schema)

namespace Schema

instance : Inhabited Schema :=
  ⟨unknown false⟩

/-- Whether null is admitted. -/
def nullable : Schema → Bool
  | string n _ => n
  | number n _ _ => n
  | boolean n => n
  | enumeration n _ => n
  | array n _ => n
  | object n _ => n
  | ref n _ => n
  | unknown n => n

end Schema

/-- Schemas of components by name. -/
abbrev SchemaTable := Named Schema

/-- A number as a document value. -/
def Number.toValue : Number → Value
  | int n => .int n
  | float x => .float x

/-- A scalar as a document value. -/
def Scalar.toValue : Scalar → Value
  | text s => .text s
  | bool b => .bool b
  | number n => n.toValue

/-- Equality of optional bounds. -/
def sameBound : Option Number → Option Number → Bool
  | none, none => true
  | some a, some b => a.toValue.equals b.toValue
  | _, _ => false

/-- Equality of all four bounds. -/
def Bounds.same (a b : Bounds) : Bool :=
  sameBound a.minimum b.minimum && sameBound a.maximum b.maximum &&
    sameBound a.exclusiveMinimum b.exclusiveMinimum &&
    sameBound a.exclusiveMaximum b.exclusiveMaximum

/-- Equality of listed values, in order. -/
def sameScalars : List Scalar → List Scalar → Bool
  | [], [] => true
  | a :: as, b :: bs => a.toValue.equals b.toValue && sameScalars as bs
  | _, _ => false

namespace Schema

mutual
/-- Equality of schemas. -/
def same : Schema → Schema → Bool
  | string n l, string n' l' => n == n' && l == l'
  | number n i b, number n' i' b' => n == n' && i == i' && b.same b'
  | boolean n, boolean n' => n == n'
  | enumeration n vs, enumeration n' vs' => n == n' && sameScalars vs vs'
  | array n s, array n' s' => n == n' && same s s'
  | object n ps, object n' ps' => n == n' && ps.length == ps'.length && coveredBy ps ps'
  | ref n name, ref n' name' => n == n' && name == name'
  | unknown n, unknown n' => n == n'
  | _, _ => false
termination_by structural s => s
/-- Each property of the first list equals the one of its name in the second. -/
def coveredBy : List (String × Bool × Schema) → List (String × Bool × Schema) → Bool
  | [], _ => true
  | (name, required, s) :: rest, other =>
    (match Named.find? other name with
      | some (required', s') => required == required' && same s s'
      | none => false) && coveredBy rest other
termination_by structural ps => ps
end

end Schema

end ApiCompiler
