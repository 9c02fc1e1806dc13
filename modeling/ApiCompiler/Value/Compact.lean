import ApiCompiler.Text.Number
import ApiCompiler.Value.Literal

/-!
# Compact text of values

One line per value, without spaces and with keys in order. Texts are quoted with the fewest escapes
and keys that are not texts are written like values. Values that the bracket notation lacks are
written by name: `date(…)`, `datetime(…)`, `bytes(…)` and `set(…)`, the members of a set in the
order of their texts.
-/

namespace ApiCompiler

/-- A character inside double quotes: only quotes, backslashes and controls are escaped. -/
def compactChar (c : Char) : List Char :=
  if c == '"' then ['\\', '"']
  else if c == '\\' then ['\\', '\\']
  else if c == '\n' then ['\\', 'n']
  else if c == '\r' then ['\\', 'r']
  else if c == '\t' then ['\\', 't']
  else if c.toNat == 8 then ['\\', 'b']
  else if c.toNat == 12 then ['\\', 'f']
  else if c.toNat < 32 then '\\' :: 'u' :: Text.hexFixed 4 c.toNat
  else [c]

/-- A text between double quotes. -/
def compactText (text : List Char) : List Char :=
  '"' :: text.flatMap compactChar ++ ['"']

/-- Insertion into a list of texts that is sorted by code points. -/
def insertSorted (text : List Char) : List (List Char) → List (List Char)
  | [] => [text]
  | other :: rest => if other < text then other :: insertSorted text rest else text :: other :: rest

/-- What keeps a value from being written: it has no end, or an integer in it is too long. -/
inductive WriteFault where
  | endless
  | tooLong
  deriving DecidableEq

namespace Value

mutual
/-- The compact text of a value, as characters. -/
def compactChars : Value → List Char
  | null => "null".toList
  | bool b => (if b then "true" else "false").toList
  | int n => intChars n
  | float x => x.literalChars
  | text s => compactText s.toList
  | list items => '[' :: joinChars [','] (compactItems items) ++ [']']
  | map entries => '{' :: joinChars [','] (compactEntries entries) ++ ['}']
  | date d => "date(".toList ++ d.isoChars ++ [')']
  | timestamp t => "datetime(".toList ++ t.isoChars 'T' ++ [')']
  | bytes content =>
    "bytes(".toList ++ content.flatMap (fun b ↦ Text.hexFixed 2 b.toNat) ++ [')']
  | set members =>
    "set(".toList ++ joinChars [','] ((compactItems members).foldr insertSorted []) ++ [')']
  | endless => "...".toList
termination_by structural v => v
/-- The compact texts of several values. -/
def compactItems : List Value → List (List Char)
  | [] => []
  | v :: rest => compactChars v :: compactItems rest
termination_by structural vs => vs
/-- The compact texts of several entries. -/
def compactEntries : Entries → List (List Char)
  | [] => []
  | (k, v) :: rest => (compactChars k ++ ':' :: compactChars v) :: compactEntries rest
termination_by structural es => es
end

mutual
/-- What keeps a value from being written. -/
def writeFault? : Value → Option WriteFault
  | endless => some .endless
  | int n => if Text.isTooLong n then some .tooLong else none
  | list items => firstFault? items
  | map entries => firstEntryFault? entries
  | set members => firstFault? members
  | _ => none
termination_by structural v => v
/-- What keeps the first of several values from being written. -/
def firstFault? : List Value → Option WriteFault
  | [] => none
  | v :: rest =>
    match v.writeFault? with
    | some fault => some fault
    | none => firstFault? rest
termination_by structural vs => vs
/-- What keeps the first of several entries from being written. -/
def firstEntryFault? : List (Value × Value) → Option WriteFault
  | [] => none
  | (k, v) :: rest =>
    match k.writeFault?, v.writeFault? with
    | some fault, _ => some fault
    | none, some fault => some fault
    | none, none => firstEntryFault? rest
termination_by structural es => es
end

mutual
/-- How many collections stand inside each other in a value. -/
def nesting : Value → Nat
  | list items => itemNesting items + 1
  | map entries => entryNesting entries + 1
  | set members => itemNesting members + 1
  | _ => 0
termination_by structural v => v
/-- How many collections stand inside each other in one of several values. -/
def itemNesting : List Value → Nat
  | [] => 0
  | v :: rest => max v.nesting (itemNesting rest)
termination_by structural vs => vs
/-- How many collections stand inside each other in one of several entries. -/
def entryNesting : List (Value × Value) → Nat
  | [] => 0
  | (k, v) :: rest => max (max k.nesting v.nesting) (entryNesting rest)
termination_by structural es => es
end

/-- How many collections may stand inside each other in a value that is written. -/
def maxNesting : Nat := 490

/-- Whether a value is nested too deep to be written. -/
def isTooDeep (v : Value) : Bool :=
  maxNesting < v.nesting

/-- The compact text of a value. -/
def compact (v : Value) : String :=
  String.ofList v.compactChars

end Value

end ApiCompiler
