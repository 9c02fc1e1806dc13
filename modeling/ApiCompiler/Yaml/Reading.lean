import ApiCompiler.Value.Graph
import ApiCompiler.Yaml.Node
import ApiCompiler.Yaml.Scalar

/-!
# Values of nodes

A node stands for a value of its type, and a node in several places is one value in all of them. The
values of the nodes in a collection are made after the collection itself, which therefore may be a
part of itself: from the root on level by level, and from left to right on one level. The first
fault met is reported.

A mapping takes over the entries of the mappings that it merges, in front of its own. The entries
that ask for it are taken out before what they name is looked at, so that mappings may merge each
other. The sign for a default value is plain text as a key.
-/

namespace ApiCompiler.Yaml

/-! ## Merged entries -/

/-- A step of changing nodes. -/
abbrev EditNodes := StateT (Array Node) (Except Fault)

/-- The entries of a node, if it is a mapping. -/
def entriesOf? (nodes : Array Node) (number : Nat) : Option (List (Nat × Nat)) :=
  match nodes[number]? with
  | some (.mapping _ entries) => some entries
  | _ => none

/-- The type of a node. -/
def typeOf (nodes : Array Node) (number : Nat) : NodeType :=
  (nodes[number]?.map Node.type).getD .unknown

/-- Sets the entries of a mapping. -/
def setEntries (number : Nat) (entries : List (Nat × Nat)) : EditNodes Unit :=
  modify fun nodes ↦ nodes.modify number fun
    | .mapping type _ => .mapping type entries
    | node => node

/-- Makes plain text of a key that is the sign for a default value. -/
def plainKey (key : Nat) : EditNodes Unit :=
  modify fun nodes ↦
    if typeOf nodes key == .default then nodes.modify key (Node.withType .text) else nodes

/-- The node with a number. -/
def nodeAt? (number : Nat) : EditNodes (Option Node) := do
  return (← get)[number]?

/-- The entries of a mapping. -/
def entriesAt (number : Nat) : EditNodes (List (Nat × Nat)) := do
  return (entriesOf? (← get) number).getD []

mutual
/-- Takes over the entries that a mapping merges, given the number of its entries that have been
looked at and the entries taken over so far. -/
def mergeFrom (number : Nat) : (fuel : Nat) → (seen : Nat) → List (Nat × Nat) → EditNodes Unit
  | 0, _, _ => throw .malformed
  | fuel + 1, seen, merged => do
    let nodes ← get
    let entries ← entriesAt number
    let plain := (entries.drop seen).takeWhile fun (key, _) ↦ typeOf nodes key != .merge
    plain.forM fun (key, _) ↦ plainKey key
    let place := seen + plain.length
    match entries[place]? with
    | none => if !merged.isEmpty then setEntries number (merged ++ entries)
    | some (_, source) =>
      setEntries number (entries.eraseIdx place)
      let added ← mergeSource fuel source
      mergeFrom number fuel place (merged ++ added)
termination_by structural fuel => fuel
/-- The entries that a merge takes over from a mapping, or from several with the first one last. -/
def mergeSource : (fuel : Nat) → (source : Nat) → EditNodes (List (Nat × Nat))
  | 0, _ => throw .malformed
  | fuel + 1, source => do
    match ← nodeAt? source with
    | some (.mapping _ _) =>
      mergeFrom source fuel 0 []
      entriesAt source
    | some (.sequence _ items) =>
      let sources ← items.mapM fun item ↦ do
        match ← nodeAt? item with
        | some (.mapping _ _) =>
          mergeFrom item fuel 0 []
          entriesAt item
        | _ => throw .malformed
      return sources.reverse.flatten
    | _ => throw .malformed
termination_by structural fuel => fuel
end

/-- The number of entries that ask for a merge. -/
def mergeCount (nodes : Array Node) : Nat :=
  nodes.foldl (fun n node ↦
    match node with
    | .mapping _ entries => n + entries.countP fun (key, _) ↦ typeOf nodes key == .merge
    | _ => n) 0

/-- Takes over the entries that a mapping merges; each step takes one entry out that asks for it. -/
def mergeEntries (number : Nat) : EditNodes Unit := do
  mergeFrom number (2 * mergeCount (← get) + 2) 0 []

/-! ## Values -/

/-- What is known while values are made. -/
structure Making where
  /-- The nodes. -/
  nodes : Array Node
  /-- The cells of the values, by the numbers of their nodes and some more. -/
  cells : Array Cell
  /-- The nodes whose values have been begun. -/
  begun : Array Bool
  /-- The collections whose parts are still to be made, the last one first. -/
  pending : List Nat := []

/-- A step of making values. -/
abbrev Make := StateT Making (Except Fault)

/-- A value cannot be made of a node. -/
def unfit {α : Type} : Make α :=
  throw .malformed

/-- Sets a cell. -/
def setCell (number : Nat) (cell : Cell) : Make Unit :=
  modify fun s ↦ { s with cells := s.cells.set! number cell }

/-- Adds a cell. -/
def addCell (cell : Cell) : Make Nat := do
  let number := (← get).cells.size
  modify fun s ↦ { s with cells := s.cells.push cell }
  return number

/-- The text of a node as a scalar; a mapping may state one as its default value. -/
def scalarText (nodes : Array Node) : (fuel : Nat) → (number : Nat) → Except Fault String
  | 0, _ => .error (.scalar .endless)
  | fuel + 1, number =>
    match nodes[number]? with
    | some (.scalar _ text) => .ok text
    | some (.mapping _ entries) =>
      match entries.find? fun (key, _) ↦ typeOf nodes key == .default with
      | some (_, value) => scalarText nodes fuel value
      | none => .error .malformed
    | _ => .error .malformed

/-- The text of a node as a scalar. -/
def textOf (number : Nat) : Make String := do
  let nodes := (← get).nodes
  liftM (scalarText nodes (nodes.size + 1) number)

/-- A collection whose parts are still to be made. -/
def beginCollection (number : Nat) (cell : Cell) : Make Unit := do
  setCell number cell
  modify fun s ↦ { s with pending := number :: s.pending }

/-- Makes the value of a node, if it has not been begun; the parts of a collection come later. -/
def begin (number : Nat) : Make Unit := do
  let s ← get
  unless s.begun[number]?.getD true do
    modify fun s ↦ { s with begun := s.begun.set! number true }
    match typeOf s.nodes number with
    | .sequence | .orderedMapping | .pairs => beginCollection number (.list [])
    | .mapping => beginCollection number (.map [])
    | .set => beginCollection number (.atom (.set []))
    | .unknown | .merge | .default => unfit
    | type =>
      let text ← textOf number
      if type == .time && (entriesOf? s.nodes number).isSome then
        throw (.scalar .timestampOfMapping)
      setCell number (.atom (← liftM (scalarValue type text)))

/-- An entry of a mapping: its key, which node an undefined number as its key is told apart by, and
the node of its value. -/
structure Entry where
  /-- The key. -/
  key : Value
  /-- The node of a key that differs from all keys of other nodes. -/
  keyNode : Option Nat
  /-- The node of the value. -/
  value : Nat

/-- Whether two entries have one key. -/
def Entry.hasKeyOf (a b : Entry) : Bool :=
  a.keyNode == b.keyNode && a.key.equals b.key

/-- Adds an entry, in the place of the one with its key if there is one. -/
def putEntry (entries : List Entry) (entry : Entry) : List Entry :=
  if entries.any entry.hasKeyOf then
    entries.map fun other ↦
      if entry.hasKeyOf other then { other with value := entry.value } else other
  else entries ++ [entry]

/-- The one way to write the undefined number for which all numbers are one. -/
def isNaNSign (text : String) : Bool :=
  match splitNumber (Text.lower text.toList) with
  | .ok (_, body) => body == ".nan".toList
  | .error _ => false

/-- The entry of a key and a value that have been begun; a collection is no key. -/
def entryOf (key value : Nat) : Make Entry := do
  match (← get).cells[key]? with
  | some (.atom v) =>
    match v with
    | .float .nan => return ⟨v, if isNaNSign (← textOf key) then none else some key, value⟩
    | v => if v.isHashable then return ⟨v, none, value⟩ else unfit
  | _ => unfit

/-- The entries of a mapping with those that it merges; a later value of a key replaces an earlier
one in its place. -/
def makeEntries (number : Nat) : Make (List Entry) := do
  let s ← get
  let ((), nodes) ← liftM ((mergeEntries number).run s.nodes)
  modify fun s ↦ { s with nodes }
  ((entriesOf? nodes number).getD []).foldlM (fun entries (key, value) ↦ do
    begin key
    let entry ← entryOf key value
    begin value
    return putEntry entries entry) []

/-- The only entry of a mapping, as a list of its key and its value. -/
def makePair (number : Nat) : Make Nat := do
  match entriesOf? (← get).nodes number with
  | some [(key, value)] =>
    begin key
    begin value
    addCell (.list [key, value])
  | _ => unfit

/-- Makes the parts of a collection. -/
def makeParts (number : Nat) : Make Unit := do
  match (← get).nodes[number]? with
  | some (.sequence .sequence items) =>
    items.forM begin
    setCell number (.list items)
  | some (.sequence .orderedMapping items) | some (.sequence .pairs items) =>
    let pairs ← items.mapM makePair
    setCell number (.list pairs)
  | some (.mapping .mapping _) =>
    let entries ← makeEntries number
    setCell number (.map (entries.map fun entry ↦ (entry.key, entry.value)))
  | some (.mapping .set _) =>
    let entries ← makeEntries number
    setCell number (.atom (.set (entries.map Entry.key)))
  | _ => unfit

/-- Makes the parts of all collections, level by level. -/
def makeLevels : (fuel : Nat) → Make Unit
  | 0 => unfit
  | fuel + 1 => do
    let level := (← get).pending.reverse
    unless level.isEmpty do
      modify fun s ↦ { s with pending := [] }
      level.forM makeParts
      makeLevels fuel

/-- A text in indented notation as a value. -/
structure Reading where
  /-- The value. -/
  graph : Graph
  /-- Whether any part stands in several places. -/
  aliased : Bool

/-- The value of a text in indented notation. -/
def read (text : String) : Except Fault Reading := do
  let nodes ← NodeGraph.ofText text.toList
  match nodes.root with
  | none => return ⟨⟨#[.atom .null], 0⟩, false⟩
  | some root =>
    let size := nodes.nodes.size
    let making : Making := ⟨nodes.nodes, .replicate size default, .replicate size false, []⟩
    let ((), made) ← (do begin root; makeLevels (size + 2) : Make Unit).run making
    return ⟨⟨made.cells, root⟩, nodes.aliased⟩

end ApiCompiler.Yaml
