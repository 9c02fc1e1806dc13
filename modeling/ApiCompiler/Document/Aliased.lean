import ApiCompiler.Document.Normalise
import ApiCompiler.Value.Graph

/-!
# Documents of the second version with aliases

A document may use one mapping in several places. Bringing it into the layout of version 3 then
changes the mapping in all these places at once: path items, operations and responses are visited in
document order, and each visit finds what the earlier ones have left. A request body is a copy that
shares nothing with the parameter it is made of. A mapping whose entries are being visited must not
get more or fewer of them.
-/

namespace ApiCompiler.Document.Aliased

open Value (Keyed)

/-- Entries of a mapping whose values are cells. -/
abbrev Entries := Keyed Nat

/-- A step of changing cells. -/
abbrev Edit := StateT (Array Cell) Report

/-- Gives up. -/
def fail {α : Type} (failure : Failure) : Edit α :=
  liftM (Report.fail failure : Report α)

/-- The cell with a number. -/
def cellAt (number : Nat) : Edit Cell := do
  return (← get)[number]?.getD default

/-- The entries of a mapping. -/
def entriesAt? (number : Nat) : Edit (Option Entries) := do
  return (← cellAt number).map?

/-- Changes the entries of a mapping, wherever it stands. -/
def setEntries (number : Nat) (entries : Entries) : Edit Unit :=
  modify fun cells ↦ cells.set! number (.map entries)

/-- Adds a cell. -/
def addCell (cell : Cell) : Edit Nat := do
  let number := (← get).size
  modify fun cells ↦ cells.push cell
  return number

/-- Adds a mapping. -/
def addMap (entries : List (String × Nat)) : Edit Nat :=
  addCell (.map (entries.map fun (name, i) ↦ (.text name, i)))

/-- Adds a copy that shares nothing. -/
def addCopy (number : Nat) : Edit Nat :=
  modifyGet fun cells ↦ Cell.copy cells number

/-- Adds content that holds a schema as JSON. -/
def jsonContent (schema : Nat) : Edit Nat := do
  addMap [("application/json", ← addMap [("schema", schema)])]

/-- Whether a node states a location. -/
def isLocated (node : Entries) (location : String) : Edit Bool := do
  match node.get? "in" with
  | none => return false
  | some number =>
    match ← cellAt number with
    | .atom v => return (Value.text location).equals v
    | _ => return false

/-- A parameter whose inline type has become a schema. -/
def nestType (parameter : Nat) (node : Entries) : Edit Nat := do
  if !node.has "schema" && node.has "type" then
    let schema := typeKeys.filterMap fun key ↦ (node.get? key).map fun i ↦ (key, i)
    let rest := typeKeys.foldl Keyed.remove node
    addCell (.map (rest.putText "schema" (← addMap schema)))
  else return parameter

/-- A request body made of a parameter in the body. -/
def bodyOfParameter (node : Entries) : Edit Nat := do
  let required ←
    match node.get? "required" with
    | some number => pure number
    | none => addCell (.atom (.bool false))
  let schema ←
    match node.get? "schema" with
    | some number => pure number
    | none => addMap []
  addMap [("required", required), ("content", ← jsonContent schema)]

/-- The parameters of a list that has been converted, and the request body that it states; the last
one counts. -/
def convertParameters : List Nat → Edit (List Nat × Option Nat)
  | [] => return ([], none)
  | parameter :: rest => do
    match ← entriesAt? parameter with
    | none =>
      let (others, body) ← convertParameters rest
      return (parameter :: others, body)
    | some node =>
      if ← isLocated node "body" then
        let own ← bodyOfParameter node
        let (others, body) ← convertParameters rest
        return (others, body.or (some own))
      else if ← isLocated node "formData" then convertParameters rest
      else
        let converted ← nestType parameter node
        let (others, body) ← convertParameters rest
        return (converted :: others, body)

/-- Converts the parameters of a node, and gives the request body that they state. -/
def adoptParameters (number : Nat) (node : Entries) : Edit (Option Nat) := do
  match node.get? "parameters" with
  | none => return none
  | some list =>
    let parameters :=
      match ← cellAt list with
      | .list parameters => parameters
      | _ => []
    let (converted, body) ← convertParameters parameters
    setEntries number (node.putText "parameters" (← addCell (.list converted)))
    return body

/-- Visits the entries of a mapping from a place on, as they are when their turn comes. The mapping
has the size that it had at first, and no more entries than that are visited. -/
def visitFrom (number size : Nat) (visit : Value → Nat → Edit Unit) :
    (left : Nat) → (place : Nat) → Edit Unit
  | left, place => do
    let entries := (← entriesAt? number).getD []
    if entries.length != size then fail (.visit .grown)
    match left, entries[place]? with
    | _, none => return
    | 0, some _ => fail (.visit .replaced)
    | left + 1, some (key, value) =>
      visit key value
      let after := (← entriesAt? number).getD []
      let isLeft (entry : Value × Nat) : Bool := (after.lookup? entry.1).isSome
      visitFrom number size visit left ((entries.take (place + 1)).countP isLeft)

/-- Visits the entries of a mapping in order. -/
def visitEntries (number : Nat) (visit : Value → Nat → Edit Unit) : Edit Unit := do
  let size := ((← entriesAt? number).getD []).length
  visitFrom number size visit size 0

/-- Visits a response, whose schema becomes content. -/
def visitResponse (number : Nat) : Edit Unit := do
  match ← entriesAt? number with
  | none => return
  | some node =>
    match node.get? "schema" with
    | none => return
    | some schema =>
      unless node.has "content" do
        setEntries number ((node.remove "schema").putText "content" (← jsonContent schema))

/-- Gives an operation a request body, unless it has one. -/
def adoptBody (number : Nat) (body : Nat) : Edit Unit := do
  let node := (← entriesAt? number).getD []
  unless node.has "requestBody" do
    setEntries number (node.putText "requestBody" (← addCopy body))

/-- Visits an operation, given the request body that its path item states. -/
def visitOperation (ofItem : Option Nat) (number : Nat) : Edit Unit := do
  match ← entriesAt? number with
  | none => return
  | some node =>
    if let some body := (← adoptParameters number node).or ofItem then adoptBody number body
    if let some responses := ((← entriesAt? number).getD []).get? "responses" then
      if (← entriesAt? responses).isSome then visitEntries responses fun _ ↦ visitResponse

/-- Visits an entry of a path item, given the request body that the path item states. -/
def visitMethod (ofItem : Option Nat) (key : Value) (number : Nat) : Edit Unit := do
  if let .text method := key then
    if httpMethods.contains method then visitOperation ofItem number

/-- Visits a path item. -/
def visitItem (number : Nat) : Edit Unit := do
  match ← entriesAt? number with
  | none => return
  | some item =>
    visitEntries number (visitMethod (← adoptParameters number item))

/-- Makes the definitions of a document component schemas. -/
def adoptDefinitions (root : Nat) : Edit Unit := do
  let document := (← entriesAt? root).getD []
  let definitions ←
    match document.get? "definitions" with
    | some number => pure number
    | none => addMap []
  match document.get? "components" with
  | none => setEntries root (document.putText "components" (← addMap [("schemas", definitions)]))
  | some components =>
    match ← cellAt components with
    | .map entries => setEntries components (entries.putText "schemas" definitions)
    | .list _ => fail (.fixedComponents (.list []))
    | .atom v => fail (.fixedComponents v)

/-- Brings a document into the layout of version 3. -/
def convert (root : Nat) : Edit Unit := do
  adoptDefinitions root
  if let some paths := ((← entriesAt? root).getD []).get? "paths" then
    if (← entriesAt? paths).isSome then visitEntries paths fun _ ↦ visitItem

/-- A document in the layout of version 3, given the version that it states. -/
def normalise (document : Graph) (version : String) : Report Graph := do
  Report.note (.normalising version)
  let ((), cells) ← (convert document.root).run document.cells
  return { document with cells }

end ApiCompiler.Document.Aliased
