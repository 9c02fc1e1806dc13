import ApiCompiler.Pattern
import ApiCompiler.Pointer
import ApiCompiler.Report
import ApiCompiler.Schema

/-!
# Schemas of document nodes

A schema node of a document becomes a schema. A reference names a component; when the known names
are given, a reference to any other name is unknown. Malformed keywords are dropped and malformed
nodes are unknown. Only a pattern that is too large in some way, or whose flags contradict each
other, and a property named by an integer with too many digits stop the resolution.
-/

namespace ApiCompiler.Schema

open Value (Entries Keyed)

/-- A number that is not a truth value. -/
def number? : Value → Option Number
  | .int n => some (.int n)
  | .float x => some (.float x)
  | _ => none

/-- A length: an integer that is not negative. -/
def length? : Value → Option Nat
  | .int n => if 0 ≤ n then some n.toNat else none
  | _ => none

/-- A value that a literal type can list. -/
def scalar? : Value → Option Scalar
  | .text s => some (.text s)
  | .bool b => some (.bool b)
  | .int n => some (.number (.int n))
  | .float x => some (.number (.float x))
  | _ => none

/-- A text other than the name of the null type. -/
def nonNullType? : Value → Option String
  | .text s => if s == "null" then none else some s
  | _ => none

/-- The declared type of a node: of a list, the first that is not null. -/
def declaredType (node : Entries) : Option String :=
  match node.get? "type" with
  | some (.list types) => types.findSome? nonNullType?
  | some (.text s) => some s
  | _ => none

/-- Whether the declared type is a list that has null. -/
def typeAdmitsNull (node : Entries) : Bool :=
  match node.get? "type" with
  | some (.list types) => types.any (Value.text "null").equals
  | _ => false

/-- Whether a keyword is exactly true. -/
def flagged (node : Entries) (key : String) : Bool :=
  ((node.get? key).map Value.isTrue).getD false

/-- Whether a node admits null, by its type or by either of the two flags. -/
def admitsNull (node : Entries) : Bool :=
  typeAdmitsNull node || flagged node "nullable" || flagged node "x-nullable"

/-- The inclusive and the exclusive bound that a keyword and its exclusive twin state: the twin is a
flag that makes the bound beside it strict, or a strict bound of its own. -/
def boundPair (bound exclusive : Option Value) : Option Number × Option Number :=
  let inclusive := bound.bind number?
  match exclusive with
  | some (.bool true) => (none, inclusive)
  | some v => (inclusive, number? v)
  | none => (inclusive, none)

/-- The range that a node states. -/
def bounds (node : Entries) : Bounds :=
  let low := boundPair (node.get? "minimum") (node.get? "exclusiveMinimum")
  let high := boundPair (node.get? "maximum") (node.get? "exclusiveMaximum")
  ⟨low.1, high.1, low.2, high.2⟩

/-- The pattern that a node states, if it is well formed. -/
def pattern (node : Entries) : Report (Option String) :=
  match node.get? "pattern" with
  | some (.text s) =>
    match Pattern.fault? s with
    | none => pure (some s)
    | some .malformed => do
      Report.note (.droppedPattern s)
      return none
    | some fault => .fail (.pattern fault)
  | _ => pure none

/-- Whether a node states the format of a date with a time. -/
def isDateTime (node : Entries) : Bool :=
  ((node.get? "format").map (Value.text "date-time").equals).getD false

/-- The constraints of a string that a node states. -/
def stringLimits (node : Entries) : Report StringLimits := do
  return ⟨(node.get? "minLength").bind length?, (node.get? "maxLength").bind length?,
    ← pattern node, isDateTime node⟩

/-- The schema of a reference. -/
def ofReference (known : Option (List String)) (nullable : Bool) : Value → Report Schema
  | .text reference =>
    if reference == "" then pure (.unknown nullable)
    else
      let name := Pointer.componentName reference
      if known.all fun names ↦ names.contains name then pure (.ref nullable name)
      else do
        Report.note (.unresolvedReference reference)
        return .unknown nullable
  | _ => pure (.unknown nullable)

/-- The schema of a list of values. -/
def ofEnumeration (nullable : Bool) : Value → Schema
  | .list values =>
    let scalars := values.filterMap scalar?
    let nullable := nullable || values.any Value.null.equals
    if scalars.isEmpty then .unknown nullable else .enumeration nullable scalars
  | _ => .unknown nullable

/-- The texts in the list of required names. -/
def requiredNames (node : Entries) : List String :=
  match node.get? "required" with
  | some (.list names) => names.filterMap Value.text?
  | _ => []

/-- Whether a key is one of the required names. -/
def isRequired (required : List String) : Value → Bool
  | .text name => required.contains name
  | _ => false

/-- The name that a key gives: its text. An integer with too many digits has none. -/
def keyName : Value → Report String
  | .int n => if Text.isTooLong n then .fail .tooLong else pure (Value.int n).display
  | key => pure key.display

/-- The schema of a node without inner schemas. -/
def ofPlain (declared : Option String) (nullable : Bool) (node : Entries) : Report Schema :=
  match declared with
  | some "string" => do return .string nullable (← stringLimits node)
  | some "number" => pure (.number nullable false (bounds node))
  | some "integer" => pure (.number nullable true (bounds node))
  | some "boolean" => pure (.boolean nullable)
  | _ => pure (.unknown nullable)

mutual
/-- The schema of a node. With the known names given, references to other names are unknown. -/
def resolve (known : Option (List String)) : Value → Report Schema
  | .map node =>
    let nullable := admitsNull node
    let declared := declaredType node
    match Keyed.get? node "$ref", Keyed.get? node "enum" with
    | some reference, _ => ofReference known nullable reference
    | none, some values => pure (ofEnumeration nullable values)
    | none, none =>
      if declared == some "array" then do return .array nullable (← resolveItems known node)
      else if declared == some "object" || Keyed.has node "properties" then do
        let properties ← resolveProperties known (requiredNames node) node
        return .object nullable (Named.ofPairs properties)
      else ofPlain declared nullable node
  | .endless => .fail (.endless none)
  | _ => pure (.unknown false)
termination_by structural node => node
/-- The schema of the items of an array node. -/
def resolveItems (known : Option (List String)) : List (Value × Value) → Report Schema
  | [] => pure (.unknown false)
  | (key, node) :: rest =>
    if Keyed.keyIs "items" key then resolve known node else resolveItems known rest
termination_by structural node => node
/-- The properties of an object node. -/
def resolveProperties (known : Option (List String)) (required : List String) :
    List (Value × Value) → Report (List (String × Bool × Schema))
  | [] => pure []
  | (key, node) :: rest =>
    if Keyed.keyIs "properties" key then
      match node with
      | .map properties => resolveEach known required properties
      | _ => pure []
    else resolveProperties known required rest
termination_by structural node => node
/-- The schemas of properties, each with its name and its required flag. -/
def resolveEach (known : Option (List String)) (required : List String) :
    List (Value × Value) → Report (List (String × Bool × Schema))
  | [] => pure []
  | (key, node) :: rest => do
    let name ← keyName key
    let schema ← resolve known node
    let others ← resolveEach known required rest
    return (name, isRequired required key, schema) :: others
termination_by structural node => node
end

end ApiCompiler.Schema
