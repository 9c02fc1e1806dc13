/-!
# Grids of characters

A character set of several bytes puts its characters into numbered places. A chart lists runs of
characters with the place of the first one; several charts may lie on top of each other. A place
that holds the replacement character is empty, and a few places hold two characters.
-/

namespace ApiCompiler.Charset

/-- The replacement character. -/
def replacement : Char := '\ufffd'

/-- The characters of places. -/
structure Grid where
  /-- The characters of places that hold one. -/
  table : Array Char
  /-- The places that hold two characters. -/
  pairs : List (Nat × String) := []

namespace Grid

/-- A table with a run of characters from a place on. -/
def addRun (table : Array Char) (place : Nat) (text : String) : Array Char :=
  let size := place + text.length
  let table :=
    if table.size < size then table ++ Array.replicate (size - table.size) replacement else table
  (text.toList.zipIdx place).foldl (fun table (c, place) ↦ table.setIfInBounds place c) table

/-- The grid of charts, each one on top of those before it. -/
def ofCharts (charts : List (List (Nat × String))) (pairs : List (Nat × String) := []) : Grid :=
  ⟨charts.flatten.foldl (fun table (place, text) ↦ addRun table place text) #[], pairs⟩

/-- A grid without characters. -/
def empty : Grid :=
  ⟨#[], []⟩

/-- The characters in a place. -/
def find? (grid : Grid) (place : Nat) : Option (List Char) :=
  match grid.pairs.lookup place with
  | some text => some text.toList
  | none => (grid.table[place]?).bind fun c ↦ if c == replacement then none else some [c]

end Grid

/-- What the bytes from a point on begin with: characters that take some bytes, bytes without a
meaning, or less than a character at the end. -/
inductive Step where
  | found (chars : List Char) (size : Nat)
  | wrong (size : Nat)
  | unfinished

/-- The first of some bytes as characters, or as bytes without a meaning. -/
def Step.ofChars? (size : Nat) : Option (List Char) → Step
  | some chars => .found chars size
  | none => .wrong 1

/-- The characters of bytes, given what bytes begin with in a state, and the bytes at the end that
are less than a character; the characters so far come last one first. -/
def decodeStates {σ : Type} (step : σ → List UInt8 → Step × σ) (done : List Char) :
    (state : σ) → List UInt8 → List Char × List UInt8
  | _, [] => (done.reverse, [])
  | state, byte :: rest =>
    match step state (byte :: rest) with
    | (.found chars size, state) =>
      decodeStates step (chars.reverse ++ done) state (rest.drop (size - 1))
    | (.wrong size, state) => decodeStates step (replacement :: done) state (rest.drop (size - 1))
    | (.unfinished, _) => (done.reverse, byte :: rest)
termination_by _ bytes => bytes.length

/-- Characters with one more for what remains at the end. -/
def withRemains : List Char × List UInt8 → List Char
  | (chars, []) => chars
  | (chars, _ :: _) => chars ++ [replacement]

/-- The characters of bytes, given what bytes begin with. -/
def decodeSteps (step : List UInt8 → Step) (bytes : List UInt8) : List Char :=
  withRemains (decodeStates (fun _ bytes ↦ (step bytes, ())) [] () bytes)

end ApiCompiler.Charset
