import ApiCompiler.Text.Surrogate
import ApiCompiler.Yaml.Fault

/-!
# Reading characters

A cursor stands at a character of a text and knows its line and column. Both line separators of
Unicode and the next-line control end a line like the ASCII line ends do.
-/

namespace ApiCompiler.Yaml

/-- Why a document in indented notation has no value. -/
inductive Fault where
  | malformed
  | scalar (fault : ValueFault)
  deriving DecidableEq

/-- A character that ends a line. -/
def isBreak (c : Char) : Bool :=
  c == '\n' || c == '\r' || c == '\u0085' || c == '\u2028' || c == '\u2029'

/-- The end of the text or the end of a line. -/
def endsLine : Option Char → Bool
  | none => true
  | some c => isBreak c

/-- The end of the text, the end of a line, or a space. -/
def endsWord : Option Char → Bool
  | none => true
  | some c => c == ' ' || isBreak c

/-- The end of the text, the end of a line, a space or a tab. -/
def endsPlain : Option Char → Bool
  | none => true
  | some c => c == ' ' || c == '\t' || isBreak c

/-- A character that a document may hold. -/
def isAllowed (c : Char) : Bool :=
  let n := c.toNat
  n == 9 || n == 10 || n == 13 || (0x20 ≤ n && n ≤ 0x7e) || n == 0x85 ||
    (0xa0 ≤ n && n ≤ 0xfffd) || (0x10000 ≤ n && (Text.surrogate? c).isNone)

/-- A place in a text. -/
structure Cursor where
  /-- The characters from here on. -/
  rest : List Char
  /-- The number of characters before. -/
  index : Nat := 0
  /-- The number of lines before. -/
  line : Nat := 0
  /-- The number of characters before on the same line. -/
  column : Nat := 0

namespace Cursor

/-- The character at a distance. -/
def peek (cursor : Cursor) (distance : Nat := 0) : Option Char :=
  cursor.rest[distance]?

/-- The cursor after the next character. -/
def next (cursor : Cursor) : Cursor :=
  match cursor.rest with
  | [] => cursor
  | c :: rest =>
    let index := cursor.index + 1
    if isBreak c && !(c == '\r' && rest.head? == some '\n') then ⟨rest, index, cursor.line + 1, 0⟩
    else if c == '\ufeff' then ⟨rest, index, cursor.line, cursor.column⟩
    else ⟨rest, index, cursor.line, cursor.column + 1⟩

/-- The cursor after several characters. -/
def skip : (count : Nat) → Cursor → Cursor
  | 0, cursor => cursor
  | count + 1, cursor => skip count cursor.next

/-- The cursor after a line end, and the character that it stands for. -/
def lineBreak (cursor : Cursor) : List Char × Cursor :=
  match cursor.rest with
  | '\r' :: '\n' :: _ => (['\n'], cursor.skip 2)
  | c :: _ =>
    if c == '\u2028' || c == '\u2029' then ([c], cursor.next)
    else if isBreak c then (['\n'], cursor.next)
    else ([], cursor)
  | [] => ([], cursor)

/-- Whether a document marker stands here: three dashes or dots in front of a blank. -/
def atMarker (cursor : Cursor) : Bool :=
  match cursor.rest with
  | '-' :: '-' :: '-' :: rest => endsPlain rest.head?
  | '.' :: '.' :: '.' :: rest => endsPlain rest.head?
  | _ => false

end Cursor

/-- What is known while a text is read. -/
structure Scanner where
  /-- Where the reading stands. -/
  cursor : Cursor
  /-- The depth of brackets. -/
  flowLevel : Nat := 0
  /-- The column of the innermost block, or -1. -/
  indent : Int := -1
  /-- The columns of the blocks around it. -/
  indents : List Int := []
  /-- Whether a key may begin here. -/
  allowKey : Bool := true
  /-- A number above the length of the text. -/
  bound : Nat

/-- A step of reading. -/
abbrev Scan := StateT Scanner (Except Fault)

/-- The text is malformed. -/
def malformed {α : Type} : Scan α :=
  throw .malformed

/-- A number above the length of the text. -/
def bound : Scan Nat := do
  return (← get).bound

/-- Fails unless a condition holds. -/
def require (condition : Bool) : Scan Unit :=
  if condition then pure () else malformed

/-- The character at a distance. -/
def peek (distance : Nat := 0) : Scan (Option Char) := do
  return (← get).cursor.peek distance

/-- Moves past characters. -/
def forward (count : Nat := 1) : Scan Unit :=
  modify fun s ↦ { s with cursor := s.cursor.skip count }

/-- Reads the characters of a class. -/
def takeWhile (isPart : Char → Bool) : Scan (List Char) := do
  let chars := (← get).cursor.rest.takeWhile isPart
  forward chars.length
  return chars

/-- Moves past spaces. -/
def skipSpaces : Scan Unit := do
  let _ ← takeWhile (· == ' ')

/-- Reads a line end, if one is here. -/
def takeBreak : Scan (List Char) := do
  let (chars, cursor) := (← get).cursor.lineBreak
  modify fun s ↦ { s with cursor }
  return chars

/-- Moves past a comment, if one is here. -/
def skipComment : Scan Unit := do
  if (← peek) == some '#' then
    let _ ← takeWhile fun c ↦ !isBreak c

/-- Moves past the blank rest of a line, which may have a comment. -/
def skipRestOfLine : Scan Unit := do
  skipSpaces
  skipComment
  require (endsLine (← peek))
  let _ ← takeBreak

/-- Sets whether a key may begin here. -/
def setAllowKey (allow : Bool) : Scan Unit :=
  modify fun s ↦ { s with allowKey := allow }

/-- The value of a hexadecimal digit. -/
def hexValue? (c : Char) : Option Nat :=
  if c.isDigit then some (c.toNat - 48)
  else if 'a' ≤ c && c ≤ 'f' then some (c.toNat - 87)
  else if 'A' ≤ c && c ≤ 'F' then some (c.toNat - 55)
  else none

/-- Reads a number of exactly `count` hexadecimal digits, after `value`. -/
def takeHex (value : Nat) : (count : Nat) → Scan Nat
  | 0 => return value
  | count + 1 => do
    match (← peek).bind hexValue? with
    | none => malformed
    | some digit =>
      forward
      takeHex (value * 16 + digit) count

end ApiCompiler.Yaml
