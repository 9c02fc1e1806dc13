import ApiCompiler.Document.Reference
import ApiCompiler.Schema.Resolve
import ApiCompiler.Text.Case

/-!
# Parameters of an operation

The parameters of a path item and of its operation, references followed. A parameter is identified
by its name and its location; one that the operation declares again replaces the path item's in its
place.
-/

namespace ApiCompiler.Route

open Value (Entries Keyed)

/-- A declared parameter. -/
structure Parameter where
  /-- Its name. -/
  name : String
  /-- Where it is passed. -/
  location : Value
  /-- The declaration. -/
  node : Entries

/-- Whether a parameter has a name and a location. -/
def Parameter.isAt (p : Parameter) (name : String) (location : Value) : Bool :=
  p.name == name && p.location.equals location

/-- Adds a parameter, in place of one with its name and location. -/
def putParameter : List Parameter → Parameter → List Parameter
  | [], p => [p]
  | q :: rest, p =>
    if q.isAt p.name p.location then { p with location := q.location } :: rest
    else q :: putParameter rest p

/-- A parameter as a node declares it: a mapping with a textual name. -/
def parameter? : Value → Option Parameter
  | .map node =>
    match Keyed.get? node "name" with
    | some (.text name) => some ⟨name, (Keyed.get? node "in").getD (.text "query"), node⟩
    | _ => none
  | _ => none

/-- Adds the parameters that a list declares. -/
def collectFrom (document : Value) (known : List Parameter) :
    List Value → Report (List Parameter)
  | [] => pure known
  | entry :: rest => do
    match parameter? (← Document.deref document entry) with
    | none => collectFrom document known rest
    | some p =>
      if p.location.isHashable then collectFrom document (putParameter known p) rest
      else .fail (.unhashable p.location)

/-- The list under the key for parameters. -/
def parameterList (node : Entries) : List Value :=
  match node.get? "parameters" with
  | some (.list items) => items
  | _ => []

/-- The parameters of a path item overlaid with those of an operation. -/
def collectParameters (document : Value) (operation item : Entries) :
    Report (List Parameter) := do
  let shared ← collectFrom document [] (parameterList item)
  collectFrom document shared (parameterList operation)

/-- A declared schema that states a type, a reference or a list of values. -/
def statesType : Value → Bool
  | .map node => ["type", "$ref", "enum"].any (Keyed.has node)
  | _ => false

/-- Whether a text has the letters `id` next to each other. -/
def hasId : List Char → Bool
  | 'i' :: 'd' :: _ => true
  | _ :: rest => hasId rest
  | [] => false

/-- Whether a name has `id` in it, in any case of letters. -/
def namesIdentifier (name : String) : Bool :=
  hasId (Text.lower name.toList)

/-- The schema of a path parameter: the declared one, or else an integer for a name that has `id` in
it and a string for any other. -/
def pathSchema (known : Option (List String)) (name : String) (declared : Option Value) :
    Report Schema :=
  match declared with
  | some node => if statesType node then Schema.resolve known node else pure guess
  | none => pure guess
where
  /-- The schema that the name suggests. -/
  guess : Schema :=
    if namesIdentifier name then .number false true {} else .string false {}

/-- The schemas of path parameters in path order. -/
def pathSchemas (known : Option (List String)) (parameters : List Parameter) :
    List String → Report (Named Schema)
  | [] => pure []
  | name :: rest => do
    let declared := (parameters.find? fun p ↦ p.isAt name (.text "path")).bind fun p ↦
      p.node.get? "schema"
    let schema ← pathSchema known name declared
    return (name, schema) :: (← pathSchemas known parameters rest)

/-- The schema that a query parameter states; one without is a string. -/
def querySchemaNode (node : Entries) : Value :=
  match node.get? "schema" with
  | some schema => if schema.isTruthy then schema else .map [(.text "type", .text "string")]
  | none => .map [(.text "type", .text "string")]

/-- The schemas of query parameters in order, with their required flags. -/
def querySchemas (known : Option (List String)) : List Parameter → Report Properties
  | [] => pure []
  | p :: rest => do
    if p.location.equals (.text "query") then
      let schema ← Schema.resolve known (querySchemaNode p.node)
      let required := Schema.flagged p.node "required"
      return (p.name, required, schema) :: (← querySchemas known rest)
    else querySchemas known rest

end ApiCompiler.Route
