import ApiCompiler.Schema
import ApiCompiler.Text.Number

/-!
# Schemas that can be written

The generated code writes the integers that a schema states. An integer with too many digits cannot
be written, and neither can a schema with one; that of a date with a time is not written. Schemas
stand inside each other only so deep.
-/

namespace ApiCompiler

/-- Whether a number can be written. -/
def Number.isWritable : Number → Bool
  | int n => !Text.isTooLong n
  | float _ => true

/-- Whether a listed value can be written. -/
def Scalar.isWritable : Scalar → Bool
  | number n => n.isWritable
  | _ => true

/-- Whether the constraints of a string can be written. -/
def StringLimits.isWritable (limits : StringLimits) : Bool :=
  limits.dateTime ||
    [limits.minLength, limits.maxLength].all fun length ↦
      length.all fun n ↦ !Text.isTooLong n

/-- Whether the constraints of a number can be written. -/
def Bounds.isWritable (bounds : Bounds) : Bool :=
  [bounds.minimum, bounds.maximum, bounds.exclusiveMinimum, bounds.exclusiveMaximum].all
    fun bound ↦ bound.all Number.isWritable

namespace Schema

mutual
/-- Whether a schema can be written. -/
def isWritable : Schema → Bool
  | string _ limits => limits.isWritable
  | number _ _ bounds => bounds.isWritable
  | enumeration _ values => values.all Scalar.isWritable
  | array _ items => items.isWritable
  | object _ properties => areWritable properties
  | _ => true
termination_by structural s => s
/-- Whether the schemas of properties can be written. -/
def areWritable : List (String × Bool × Schema) → Bool
  | [] => true
  | (_, _, s) :: rest => s.isWritable && areWritable rest
termination_by structural ps => ps
end

mutual
/-- How deep the annotation of a schema is built: the items of an array are two steps below it, the
properties of an object three. -/
def depth : Schema → Nat
  | array _ items => items.depth + 2
  | object _ (property :: rest) => depthOfAll (property :: rest) + 3
  | _ => 2
termination_by structural s => s
/-- How deep the annotations of properties are built. -/
def depthOfAll : List (String × Bool × Schema) → Nat
  | [] => 0
  | (_, _, s) :: rest => max s.depth (depthOfAll rest)
termination_by structural ps => ps
end

/-- How deep an annotation may be built. -/
def maxDepth : Nat := 980

/-- Whether the annotation of a schema is too deep to be built. -/
def isTooDeep (s : Schema) : Bool :=
  maxDepth < s.depth

end Schema

end ApiCompiler
