import ApiCompiler.Yaml.Cursor

/-!
# Texts of scalars

A scalar is written in quotes, as an indented block, or plainly. Line ends inside quotes and plain
scalars fold into spaces, and an empty line stands for a line end; a block keeps its lines, or folds
them if it asks for it.
-/

namespace ApiCompiler.Yaml

/-- The lines that fold into one separator: the first line end and those after it. -/
def foldBreaks (first : List Char) (others : List (List Char)) : List Char :=
  if first != ['\n'] then first ++ others.flatten
  else if others.isEmpty then [' ']
  else others.flatten

/-- The characters with escapes of their own between double quotes. -/
def simpleEscapes : List (Char × Nat) :=
  [('0', 0), ('a', 7), ('b', 8), ('t', 9), ('\t', 9), ('n', 10), ('v', 11), ('f', 12), ('r', 13),
    ('e', 27), (' ', 32), ('"', 34), ('\\', 92), ('/', 47), ('N', 0x85), ('_', 0xa0),
    ('L', 0x2028), ('P', 0x2029)]

/-- The number of digits of an escape by code point. -/
def codeLength? : Char → Option Nat
  | 'x' => some 2
  | 'u' => some 4
  | 'U' => some 8
  | _ => none

/-- The character of a code point that is escaped. -/
def escapedChar (code : Nat) : Scan Char :=
  if 0x80000000 ≤ code then throw (.scalar .codePointTooLarge)
  else if 0x110000 ≤ code then throw (.scalar .codePoint)
  else return Text.charOfCode code

/-- Line ends inside quotes with the blanks around them, but without a document marker. -/
def quotedBreaks : (fuel : Nat) → Scan (List (List Char))
  | 0 => malformed
  | fuel + 1 => do
    require (!(← get).cursor.atMarker)
    let _ ← takeWhile fun c ↦ c == ' ' || c == '\t'
    if (← peek).any isBreak then
      let first ← takeBreak
      return first :: (← quotedBreaks fuel)
    else return []

/-- An escape between double quotes, after its backslash. -/
def quotedEscape (fuel : Nat) : Scan (List Char) := do
  match ← peek with
  | none => malformed
  | some c =>
    match simpleEscapes.lookup c with
    | some code =>
      forward
      return [Char.ofNat code]
    | none =>
      match codeLength? c with
      | some length =>
        forward
        return [← escapedChar (← takeHex 0 length)]
      | none =>
        require (isBreak c)
        let _ ← takeBreak
        return (← quotedBreaks fuel).flatten

/-- Blanks and line ends inside quotes. -/
def quotedBlanks (fuel : Nat) : Scan (List Char) := do
  let blanks ← takeWhile fun c ↦ c == ' ' || c == '\t'
  match ← peek with
  | none => malformed
  | some c =>
    if isBreak c then
      let first ← takeBreak
      return foldBreaks first (← quotedBreaks fuel)
    else return blanks

/-- A character that stands for itself in both kinds of quotes. -/
def isQuotedPlain (c : Char) : Bool :=
  !(c == '\'' || c == '"' || c == '\\' || c == ' ' || c == '\t' || isBreak c)

/-- The rest of a quoted scalar after its opening quote. -/
def quotedRest (double : Bool) : (fuel : Nat) → Scan (List Char)
  | 0 => malformed
  | fuel + 1 => do
    match ← peek with
    | none => malformed
    | some c =>
      if double && c == '"' then
        forward
        return []
      else if !double && c == '\'' then
        forward
        if (← peek) == some '\'' then
          forward
          return '\'' :: (← quotedRest double fuel)
        else return []
      else
        let chunk ←
          if isQuotedPlain c then takeWhile isQuotedPlain
          else if c == ' ' || c == '\t' || isBreak c then quotedBlanks fuel
          else if double && c == '\\' then do
            forward
            quotedEscape fuel
          else do
            forward
            pure [c]
        return chunk ++ (← quotedRest double fuel)

/-- A quoted scalar. -/
def takeQuoted (double : Bool) : Scan String := do
  forward
  return String.ofList (← quotedRest double (← bound))

/-- What becomes of the line ends after the last line of a block. -/
inductive Chomping where
  | clip
  | strip
  | keep
  deriving DecidableEq

/-- The chomping that a character asks for. -/
def chomping? : Option Char → Option Chomping
  | some '+' => some .keep
  | some '-' => some .strip
  | _ => none

/-- Reads the chomping, if it is stated here. -/
def takeChomping : Scan (Option Chomping) := do
  match chomping? (← peek) with
  | some chomping =>
    forward
    return some chomping
  | none => return none

/-- Reads the indentation, if it is stated here. -/
def takeIncrement : Scan (Option Nat) := do
  match ← peek with
  | some c =>
    if c.isDigit then
      require (c != '0')
      forward
      return some (c.toNat - 48)
    else return none
  | none => return none

/-- The header of a block: its chomping and its indentation, in any order. -/
def blockHeader : Scan (Chomping × Option Nat) := do
  let first ← takeChomping
  let increment ← takeIncrement
  let second ← if first.isNone && increment.isSome then takeChomping else pure none
  require (endsWord (← peek))
  return ((first <|> second).getD .clip, increment)

/-- The blank lines in front of a block, and the greatest column that they reach. -/
def leadingLines : (fuel column : Nat) → Scan (List (List Char) × Nat)
  | 0, _ => malformed
  | fuel + 1, column => do
    match ← peek with
    | some c =>
      if c == ' ' then
        forward
        leadingLines fuel (max column (← get).cursor.column)
      else if isBreak c then
        let first ← takeBreak
        let (others, column) ← leadingLines fuel column
        return (first :: others, column)
      else return ([], column)
    | none => return ([], column)

/-- Moves past spaces up to a column. -/
def skipIndent (column : Nat) : Scan Unit := do
  let cursor := (← get).cursor
  let spaces := (cursor.rest.takeWhile (· == ' ')).length
  forward (min spaces (column - cursor.column))

/-- Blank lines inside a block of a given indentation. -/
def blockBreaks (indent : Nat) : (fuel : Nat) → Scan (List (List Char))
  | 0 => malformed
  | fuel + 1 => do
    skipIndent indent
    if (← peek).any isBreak then
      let first ← takeBreak
      return first :: (← blockBreaks indent fuel)
    else return []

/-- Whether a line of a block begins here. -/
def atBlockLine (indent : Nat) : Scan Bool := do
  let cursor := (← get).cursor
  return cursor.column == indent && !cursor.rest.isEmpty

/-- A character that is neither a space nor a tab. -/
def isInk (c : Option Char) : Bool :=
  c != some ' ' && c != some '\t'

/-- The lines of a block, after the blank lines in front of them: their text, the last line end and
the blank lines after it. -/
def blockLines (folded : Bool) (indent : Nat) :
    (fuel : Nat) → List (List Char) → Scan (List Char × List Char × List (List Char))
  | 0, _ => malformed
  | fuel + 1, breaks => do
    let ink := isInk (← peek)
    let text ← takeWhile fun c ↦ !isBreak c
    let lineEnd ← takeBreak
    let after ← blockBreaks indent (fuel + 1)
    let head := breaks.flatten ++ text
    if ← atBlockLine indent then
      let separator :=
        if folded && lineEnd == ['\n'] && ink && isInk (← peek) then
          if after.isEmpty then [' '] else []
        else lineEnd
      let (rest, last, tail) ← blockLines folded indent fuel after
      return (head ++ separator ++ rest, last, tail)
    else return (head, lineEnd, after)

/-- A block scalar, after its indicator. -/
def takeBlock (folded : Bool) : Scan String := do
  forward
  let (chomping, increment) ← blockHeader
  skipRestOfLine
  let s ← get
  let fuel := s.bound
  let least := (max (s.indent + 1) 1).toNat
  let (breaks, indent) ←
    match increment with
    | none => do
      let (breaks, column) ← leadingLines fuel 0
      pure (breaks, max least column)
    | some increment => do
      let indent := least + increment - 1
      pure (← blockBreaks indent fuel, indent)
  let (text, last, tail) ←
    if ← atBlockLine indent then blockLines folded indent fuel breaks
    else pure ([], [], breaks)
  let ending :=
    match chomping with
    | .strip => []
    | .clip => last
    | .keep => last ++ tail.flatten
  return String.ofList (text ++ ending)

/-- Whether a plain scalar stops in front of a character, given the one after it. -/
def stopsPlain (inFlow : Bool) (c after : Option Char) : Bool :=
  endsPlain c ||
    (c == some ':' &&
      (endsPlain after || (inFlow && after.any (",[]\x7b\x7d".toList.contains ·)))) ||
    (inFlow && c.any (",?[]\x7b\x7d".toList.contains ·))

/-- The characters of a plain scalar up to the next place where it may stop. -/
def plainRun (inFlow : Bool) : List Char → List Char
  | [] => []
  | c :: rest => if stopsPlain inFlow (some c) rest.head? then [] else c :: plainRun inFlow rest

/-- Blank lines inside a plain scalar; nothing when a document marker follows them. -/
def plainBreaks : (fuel : Nat) → Scan (Option (List (List Char)))
  | 0 => malformed
  | fuel + 1 => do
    match ← peek with
    | some c =>
      if c == ' ' then
        forward
        plainBreaks fuel
      else if isBreak c then
        let first ← takeBreak
        if (← get).cursor.atMarker then return none
        return (← plainBreaks fuel).map (first :: ·)
      else return some []
    | none => return some []

/-- The blanks between two runs of a plain scalar, empty where the scalar ends. -/
def plainBlanks (fuel : Nat) : Scan (List Char) := do
  let spaces ← takeWhile (· == ' ')
  if (← peek).any isBreak then
    let first ← takeBreak
    setAllowKey true
    if (← get).cursor.atMarker then return []
    match ← plainBreaks fuel with
    | none => return []
    | some others => return foldBreaks first others
  else return spaces

/-- A plain scalar from its next run on, after the given blanks. -/
def plainRest (indent : Int) : (fuel : Nat) → (blanks : List Char) → Scan (List Char)
  | 0, _ => malformed
  | fuel + 1, blanks => do
    if (← peek) == some '#' then return []
    let s ← get
    let run := plainRun (0 < s.flowLevel) s.cursor.rest
    if run.isEmpty then return []
    setAllowKey false
    forward run.length
    let after ← plainBlanks (fuel + 1)
    let s ← get
    if after.isEmpty || s.cursor.peek == some '#' ||
        (s.flowLevel == 0 && (s.cursor.column : Int) < indent) then
      return blanks ++ run
    return blanks ++ run ++ (← plainRest indent fuel after)

/-- A plain scalar. -/
def takePlain : Scan String := do
  let s ← get
  return String.ofList (← plainRest (s.indent + 1) s.bound [])

end ApiCompiler.Yaml
