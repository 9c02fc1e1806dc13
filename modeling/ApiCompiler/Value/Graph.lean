import ApiCompiler.Value

/-!
# Values with shared parts

A document may use one collection in several places, and a collection may be a part of itself. Such
a value is a graph: its collections and their parts are numbered cells that refer to each other.
`Graph.value` unfolds it; where a collection is a part of itself, as often as anything looks.
-/

namespace ApiCompiler

/-- What a cell holds: a value without parts, or a collection of other cells. -/
inductive Cell where
  | atom (value : Value)
  | list (items : List Nat)
  | map (entries : Value.Keyed Nat)

instance : Inhabited Cell :=
  ⟨.atom .null⟩

namespace Cell

/-- The value of a cell, if the values of its parts are known. -/
def value? (known : Nat → Option Value) : Cell → Option Value
  | atom v => some v
  | list items => (items.mapM known).map .list
  | map entries =>
    (entries.mapM fun entry ↦ (known entry.2).map fun v ↦ (entry.1, v)).map .map

/-- The value of a cell, given the values of its parts. -/
def valueWith (part : Nat → Value) : Cell → Value
  | atom v => v
  | list items => .list (items.map part)
  | map entries => .map (entries.map fun (key, i) ↦ (key, part i))

/-- The parts of a cell. -/
def parts : Cell → List Nat
  | atom _ => []
  | list items => items
  | map entries => entries.map Prod.snd

/-- A cell with other numbers for its parts. -/
def renumber (number : Nat → Nat) : Cell → Cell
  | atom v => .atom v
  | list items => .list (items.map number)
  | map entries => .map (entries.map fun (key, i) ↦ (key, number i))

/-- The entries of a mapping. -/
def map? : Cell → Option (Value.Keyed Nat)
  | map entries => some entries
  | _ => none

end Cell

/-- The cells that some cells lead to, these first, when those of the first few have been added. -/
def Cell.reachable (cells : Array Cell) :
    (fuel : Nat) → (done : Nat) → (found : Array Nat) → (isFound : Array Bool) → Array Nat
  | 0, _, found, _ => found
  | fuel + 1, done, found, isFound =>
    match found[done]? with
    | none => found
    | some i =>
      let (found, isFound) := ((cells[i]?.getD default).parts).foldl
        (fun (found, isFound) j ↦
          if isFound[j]?.getD true then (found, isFound)
          else (found.push j, isFound.set! j true))
        (found, isFound)
      reachable cells fuel (done + 1) found isFound

/-- Adds a copy of a cell that shares nothing with it, and gives its number. -/
def Cell.copy (cells : Array Cell) (number : Nat) : Nat × Array Cell :=
  let found := Cell.reachable cells (cells.size + 1) 0 #[number]
    ((Array.replicate cells.size false).set! number true)
  let copyOf := found.zipIdx.foldl
    (fun (copyOf : Array Nat) (i, place) ↦ copyOf.set! i (cells.size + place))
    (Array.replicate cells.size 0)
  (cells.size, cells ++ found.map fun i ↦
    (cells[i]?.getD default).renumber fun j ↦ copyOf[j]?.getD 0)

/-- A value whose parts are numbered cells. -/
structure Graph where
  /-- The cells by number. -/
  cells : Array Cell
  /-- The cell of the whole value. -/
  root : Nat

namespace Graph

/-- The cell with a number. -/
def cell (graph : Graph) (number : Nat) : Cell :=
  graph.cells[number]?.getD default

/-- Adds the values of cells below a number whose parts have values, from the last cell on. -/
def complete (graph : Graph) : (number : Nat) → Array (Option Value) → Array (Option Value)
  | 0, values => values
  | i + 1, values =>
    if (values[i]?.join).isSome then graph.complete i values
    else
      let value := (graph.cell i).value? fun j ↦ values[j]?.join
      graph.complete i (values.set! i value)

/-- The values of the cells that do not lead to a part of itself, given some of them. -/
def finiteValues (graph : Graph) : (fuel : Nat) → Array (Option Value) → Array (Option Value)
  | 0, values => values
  | fuel + 1, values =>
    let missing := values.countP Option.isNone
    let values := graph.complete graph.cells.size values
    if values.countP Option.isNone == missing then values else graph.finiteValues fuel values

/-- The values of all cells, unfolded some more times than the given ones. -/
def unfold (graph : Graph) (finite : Array (Option Value)) :
    (times : Nat) → Array Value → Array Value
  | 0, values => values
  | times + 1, values =>
    let values := finite.mapIdx fun i value ↦
      match value with
      | some v => v
      | none => (graph.cell i).valueWith fun j ↦ values[j]?.getD .null
    graph.unfold finite times values

/-- The whole value. A path of parts in it passes some number of cells more than once before it
reaches the end of the unfolding. -/
def value (graph : Graph) (again : Nat) : Value :=
  let finite := graph.finiteValues (graph.cells.size + 1) (.replicate graph.cells.size none)
  match finite[graph.root]?.join with
  | some v => v
  | none =>
    let depth := finite.countP Option.isNone + again
    (graph.unfold finite depth (finite.map fun v ↦ v.getD .endless))[graph.root]?.getD .null

end Graph

end ApiCompiler
