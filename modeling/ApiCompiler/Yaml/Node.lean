import ApiCompiler.Yaml.NodeType
import ApiCompiler.Yaml.Token

/-!
# Nodes

The tokens of a text form the nodes of one document. Nodes are numbered in the order in which they
begin. A node may be given a name, and an alias stands for the node of that name, which is then one
node in several places; inside the node that it names, an alias makes that node a part of itself. A
name is given once, and an alias follows its name.
-/

namespace ApiCompiler.Yaml

/-- A node of a document; the nodes in it are given by their numbers. -/
inductive Node where
  | scalar (type : NodeType) (text : String)
  | sequence (type : NodeType) (items : List Nat)
  | mapping (type : NodeType) (entries : List (Nat × Nat))

/-- The type of a node. -/
def Node.type : Node → NodeType
  | scalar type _ => type
  | sequence type _ => type
  | mapping type _ => type

/-- A node of another type. -/
def Node.withType (type : NodeType) : Node → Node
  | scalar _ text => scalar type text
  | sequence _ items => sequence type items
  | mapping _ entries => mapping type entries

/-- A node without any text. -/
def Node.empty : Node :=
  .scalar (plainType "") ""

instance : Inhabited Node :=
  ⟨.empty⟩

/-- What is known while tokens are read. -/
structure NodeReader where
  /-- The tokens that are left. -/
  tokens : List Token
  /-- The nodes that have begun. -/
  nodes : Array Node := #[]
  /-- The numbers of the named nodes. -/
  names : List (String × Nat) := []
  /-- What the handles of tags stand for. -/
  handles : List (String × String) := []
  /-- Whether an alias was met. -/
  aliased : Bool := false
  /-- The number of nodes around the next one. -/
  depth : Nat := 0

/-- A step of reading nodes. -/
abbrev ReadNode := StateT NodeReader (Except Fault)

/-- The tokens do not form a document. -/
def misplaced {α : Type} : ReadNode α :=
  throw .malformed

/-- Whether a condition holds of the next token; a fault among the tokens stops the reading. -/
def nextIs (condition : Token → Bool) : ReadNode Bool := do
  match (← get).tokens with
  | [] => misplaced
  | .fault fault :: _ => throw fault
  | token :: _ => return condition token

/-- Whether the next token is among some. -/
def nextAmong (tokens : List Token) : ReadNode Bool :=
  nextIs tokens.contains

/-- Moves past the next token. -/
def dropToken : ReadNode Unit :=
  modify fun s ↦ { s with tokens := s.tokens.tail }

/-- Moves past the next token if it is the given one; tells whether it is. -/
def skipToken (token : Token) : ReadNode Bool := do
  let found ← nextIs (· == token)
  if found then dropToken
  return found

/-- Moves past the next token, which must be the given one. -/
def expect (token : Token) : ReadNode Unit := do
  if !(← skipToken token) then misplaced

/-- The name that the next token gives, if it gives one. -/
def takeName : ReadNode (Option String) := do
  let _ ← nextIs fun _ ↦ true
  match (← get).tokens with
  | .anchor name :: _ =>
    dropToken
    return some name
  | _ => return none

/-- A tag: what its handle stands for, if it has one, and what follows. -/
abbrev TagText := Option String × String

/-- The tag that the next token states, if it states one. -/
def takeTagText : ReadNode (Option TagText) := do
  let _ ← nextIs fun _ ↦ true
  match (← get).tokens with
  | .tag handle suffix :: _ =>
    dropToken
    return some (handle, suffix)
  | _ => return none

/-- A tag in full; its handle must be known. -/
def resolveTag : Option TagText → ReadNode (Option String)
  | none => return none
  | some (none, suffix) => return some suffix
  | some (some handle, suffix) => do
    match (← get).handles.lookup handle with
    | some content => return some (content ++ suffix)
    | none => misplaced

/-- The name and the tag in front of a node, in any order. -/
def takeProperties : ReadNode (Option String × Option String) := do
  match ← takeName with
  | some name =>
    let tag ← takeTagText
    return (some name, ← resolveTag tag)
  | none =>
    match ← takeTagText with
    | some tag =>
      let name ← takeName
      return (name, ← resolveTag (some tag))
    | none => return (none, none)

/-- The type of a collection. -/
def collectionType (tag : Option String) (untagged : NodeType) : NodeType :=
  match tag with
  | none | some "!" => untagged
  | some tag => NodeType.ofTag tag

/-- The type of a scalar. -/
def scalarType (tag : Option String) (plain : Bool) (text : String) : NodeType :=
  match tag with
  | some "!" => plainType text
  | some tag => NodeType.ofTag tag
  | none => if plain then plainType text else .text

/-- Adds a node. -/
def addNode (node : Node) : ReadNode Nat := do
  let number := (← get).nodes.size
  modify fun s ↦ { s with nodes := s.nodes.push node }
  return number

/-- Adds a node, with a name if one is given that no other node has. -/
def beginNode (name : Option String) (node : Node) : ReadNode Nat := do
  let number := (← get).nodes.size
  if let some name := name then
    if ((← get).names.lookup name).isSome then misplaced
    modify fun s ↦ { s with names := (name, number) :: s.names }
  addNode node

/-- The most nodes that may stand around a node. -/
def maxDepth : Nat := 488

/-- Reads the parts of a collection that has begun. -/
def readParts {α : Type} (number : Nat) (parts : ReadNode α) (collection : α → Node) :
    ReadNode Nat := do
  if maxDepth ≤ (← get).depth then throw (.scalar .endless)
  modify fun s ↦ { s with depth := s.depth + 1 }
  let content ← parts
  modify fun s ↦ { s with
    depth := s.depth - 1
    nodes := s.nodes.set! number (collection content) }
  return number

/-- The node that an alias stands for. -/
def aliased (name : String) : ReadNode Nat := do
  modify fun s ↦ { s with aliased := true }
  match (← get).names.lookup name with
  | none => misplaced
  | some number => return number

/-- Where a node stands: as an item or value of a block, as a value that may be a sequence without
an indentation of its own, or inside brackets. -/
inductive Position where
  | block
  | value
  | flow
  deriving DecidableEq

/-- The tokens after which no value stands in a block mapping. -/
def endsBlockEntry : List Token := [.key, .value, .blockEnd]

/-- The tokens after which no key stands in a bracketed mapping. -/
def endsFlowKey : List Token := [.value, .flowEntry, .flowMappingEnd]

/-- The tokens after which no value stands in a bracketed mapping. -/
def endsFlowValue : List Token := [.flowEntry, .flowMappingEnd]

/-- The tokens after which no key stands in a single entry of a bracketed sequence. -/
def endsSingleKey : List Token := [.value, .flowEntry, .flowSequenceEnd]

/-- The tokens after which no value stands in a single entry of a bracketed sequence. -/
def endsSingleValue : List Token := [.flowEntry, .flowSequenceEnd]

/-- A node without text, which must have a name or a tag. -/
def readEmpty (name tag : Option String) : ReadNode Nat := do
  if name.isNone && tag.isNone then misplaced
  beginNode name (.scalar (scalarType tag true "") "")

/-- A sequence whose items are read. -/
def readSequence (name tag : Option String) (items : ReadNode (List Nat)) : ReadNode Nat := do
  let type := collectionType tag .sequence
  readParts (← beginNode name (.sequence type [])) items (.sequence type)

/-- A mapping whose entries are read. -/
def readMapping (name tag : Option String) (entries : ReadNode (List (Nat × Nat))) :
    ReadNode Nat := do
  let type := collectionType tag .mapping
  readParts (← beginNode name (.mapping type [])) entries (.mapping type)

mutual
/-- Reads a node. -/
def readNode (position : Position) : (fuel : Nat) → ReadNode Nat
  | 0 => misplaced
  | fuel + 1 => do
    let _ ← nextIs fun _ ↦ true
    match (← get).tokens with
    | .alias name :: _ =>
      dropToken
      aliased name
    | _ =>
      let (name, tag) ← takeProperties
      let _ ← nextIs fun _ ↦ true
      match (← get).tokens with
      | .scalar text plain :: _ =>
        dropToken
        beginNode name (.scalar (scalarType tag plain text) text)
      | .blockEntry :: _ =>
        if position == .value then readSequence name tag (readUnindented fuel [])
        else readEmpty name tag
      | .blockSequenceStart :: _ =>
        if position == .flow then readEmpty name tag
        else
          readSequence name tag do
            dropToken
            readBlockItems fuel []
      | .blockMappingStart :: _ =>
        if position == .flow then readEmpty name tag
        else
          readMapping name tag do
            dropToken
            readBlockEntries fuel []
      | .flowSequenceStart :: _ =>
        readSequence name tag do
          dropToken
          readFlowItems fuel []
      | .flowMappingStart :: _ =>
        readMapping name tag do
          dropToken
          readFlowEntries fuel []
      | _ => readEmpty name tag
termination_by structural fuel => fuel
/-- Reads a node, or none in front of some tokens. -/
def readUnless (ends : List Token) (position : Position) : (fuel : Nat) → ReadNode Nat
  | 0 => misplaced
  | fuel + 1 => do
    if ← nextAmong ends then addNode .empty
    else readNode position fuel
termination_by structural fuel => fuel
/-- The items of a block sequence, after the given ones in reverse. -/
def readBlockItems : (fuel : Nat) → List Nat → ReadNode (List Nat)
  | 0, _ => misplaced
  | fuel + 1, items => do
    if ← skipToken .blockEntry then
      let item ← readUnless [.blockEntry, .blockEnd] .block fuel
      readBlockItems fuel (item :: items)
    else
      expect .blockEnd
      return items.reverse
termination_by structural fuel => fuel
/-- The items of a sequence without an indentation of its own, after the given ones in reverse. -/
def readUnindented : (fuel : Nat) → List Nat → ReadNode (List Nat)
  | 0, _ => misplaced
  | fuel + 1, items => do
    if ← skipToken .blockEntry then
      let item ← readUnless (.blockEntry :: endsBlockEntry) .block fuel
      readUnindented fuel (item :: items)
    else return items.reverse
termination_by structural fuel => fuel
/-- The entries of a block mapping, after the given ones in reverse. -/
def readBlockEntries : (fuel : Nat) → List (Nat × Nat) → ReadNode (List (Nat × Nat))
  | 0, _ => misplaced
  | fuel + 1, entries => do
    if ← skipToken .blockEnd then return entries.reverse
    let key ←
      if ← skipToken .key then readUnless endsBlockEntry .value fuel
      else misplaced
    let value ←
      if ← skipToken .value then readUnless endsBlockEntry .value fuel else addNode .empty
    readBlockEntries fuel ((key, value) :: entries)
termination_by structural fuel => fuel
/-- The items of a bracketed sequence, after the given ones in reverse. -/
def readFlowItems : (fuel : Nat) → List Nat → ReadNode (List Nat)
  | 0, _ => misplaced
  | fuel + 1, items => do
    if ← skipToken .flowSequenceEnd then return items.reverse
    if !items.isEmpty then expect .flowEntry
    if ← skipToken .key then
      let item ← readMapping none none do
        let key ← readUnless endsSingleKey .flow fuel
        let value ←
          if ← skipToken .value then readUnless endsSingleValue .flow fuel else addNode .empty
        return [(key, value)]
      readFlowItems fuel (item :: items)
    else if ← skipToken .flowSequenceEnd then return items.reverse
    else
      let item ← readNode .flow fuel
      readFlowItems fuel (item :: items)
termination_by structural fuel => fuel
/-- The entries of a bracketed mapping, after the given ones in reverse. -/
def readFlowEntries : (fuel : Nat) → List (Nat × Nat) → ReadNode (List (Nat × Nat))
  | 0, _ => misplaced
  | fuel + 1, entries => do
    if ← skipToken .flowMappingEnd then return entries.reverse
    if !entries.isEmpty then expect .flowEntry
    if ← skipToken .key then
      let key ← readUnless endsFlowKey .flow fuel
      let value ←
        if ← skipToken .value then readUnless endsFlowValue .flow fuel else addNode .empty
      readFlowEntries fuel ((key, value) :: entries)
    else if ← skipToken .flowMappingEnd then return entries.reverse
    else
      let key ← readNode .flow fuel
      let value ← addNode .empty
      readFlowEntries fuel ((key, value) :: entries)
termination_by structural fuel => fuel
end

/-- The handles that need no directive. -/
def defaultHandles : List (String × String) :=
  [("!", "!"), ("!!", coreNamespace)]

/-- Reads the directives at the head of a document and the handles that they define. -/
def readDirectives (versioned : Bool) (handles : List (String × String)) :
    (fuel : Nat) → ReadNode Unit
  | 0 => misplaced
  | fuel + 1 => do
    let _ ← nextIs fun _ ↦ true
    match (← get).tokens with
    | .directive (.version major) :: _ =>
      if versioned || major != 1 then misplaced
      dropToken
      readDirectives true handles fuel
    | .directive (.handle name content) :: _ =>
      if (handles.lookup name).isSome then misplaced
      dropToken
      readDirectives versioned ((name, content) :: handles) fuel
    | .directive .other :: _ =>
      dropToken
      readDirectives versioned handles fuel
    | _ => modify fun s ↦ { s with handles := handles ++ defaultHandles }

/-- Moves past document ends. -/
def skipDocumentEnds : (fuel : Nat) → ReadNode Unit
  | 0 => misplaced
  | fuel + 1 => do
    if ← skipToken .documentEnd then skipDocumentEnds fuel

/-- Reads the head of a document that is not left out. -/
def readHead (fuel : Nat) : ReadNode Unit := do
  readDirectives false [] fuel
  expect .documentStart

/-- A token that begins a directive. -/
def isDirective : Token → Bool
  | .directive _ => true
  | _ => false

/-- A token in front of which an explicit document is empty. -/
def endsDocument (token : Token) : Bool :=
  isDirective token || [.documentStart, .documentEnd, .streamEnd].contains token

/-- Reads the end of a text after its document. -/
def readEnd (fuel : Nat) : ReadNode Unit := do
  skipDocumentEnds fuel
  if !(← nextIs (· == .streamEnd)) then
    readHead fuel
    misplaced

/-- Reads the only document of a text; nothing when there is none. -/
def readDocument (fuel : Nat) : ReadNode (Option Nat) := do
  if ← nextIs (· == .streamEnd) then return none
  let node ←
    if ← nextIs fun token ↦ isDirective token || token == .documentStart then do
      readHead fuel
      if ← nextIs endsDocument then addNode .empty else readNode .block fuel
    else do
      modify fun s ↦ { s with handles := defaultHandles }
      readNode .block fuel
  readEnd fuel
  return some node

/-- The nodes of a document. -/
structure NodeGraph where
  /-- The nodes by number. -/
  nodes : Array Node
  /-- The node of the document, if the text has one. -/
  root : Option Nat
  /-- Whether any node stands in several places. -/
  aliased : Bool

/-- The nodes of a text. -/
def NodeGraph.ofText (text : List Char) : Except Fault NodeGraph := do
  let tokens := tokens text
  let (root, s) ← (readDocument (3 * tokens.length + 4)).run { tokens }
  return ⟨s.nodes, root, s.aliased⟩

end ApiCompiler.Yaml
