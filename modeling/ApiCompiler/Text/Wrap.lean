import ApiCompiler.Text.Alphanumeric
import ApiCompiler.Text.Split
import ApiCompiler.Text.Digits

/-!
# Wrapped lines

A text is cut into chunks and the chunks are put on lines of a limited width. A chunk is a run of
spaces or a word; a word ends after a hyphen between letters and on either side of a dash. A word
that is wider than a line is cut, after its last hyphen on the line if it has one.
-/

namespace ApiCompiler.Text

/-- A space or a control that moves to another column or line. -/
def isPlainSpace (c : Char) : Bool :=
  c == ' ' || (9 ≤ c.toNat && c.toNat ≤ 13)

/-- Each run of plain spaces becomes one space. -/
def foldPlainSpaces : List Char → List Char
  | [] => []
  | c :: rest =>
    if isPlainSpace c then
      if rest.head?.any isPlainSpace then foldPlainSpaces rest else ' ' :: foldPlainSpaces rest
    else c :: foldPlainSpaces rest

/-- A letter or another word character that is no digit. -/
def isLetter (c : Char) : Bool :=
  isWordChar c && !isDecimal c

/-- A character after which a dash may stand. -/
def endsPhrase (c : Char) : Bool :=
  isWordChar c || "!\"'&.,?".toList.contains c

/-- Whether a dash between words stands here: two hyphens or more, in front of a word. -/
def dashLength? (before : Option Char) (text : List Char) : Option Nat :=
  let length := (text.takeWhile (· == '-')).length
  if before.any endsPhrase && 2 ≤ length && (text.drop length).head?.any isWordChar then some length
  else none

/-- Whether the end of a word part stands before a hyphen: two letters, or a letter after a hyphen
after a letter. The characters before are given last first. -/
def endsPart : List Char → Bool
  | a :: b :: rest =>
    isLetter a && (isLetter b || (b == '-' && rest.head?.any isLetter))
  | _ => false

/-- Whether a word part begins here: two letters, with a hyphen between them or without. -/
def beginsPart : List Char → Bool
  | a :: b :: rest => isLetter a && (isLetter b || (b == '-' && rest.head?.any isLetter))
  | _ => false

/-- The rest of a word after its first character, and the text after the word. The characters before
are given last first. -/
def restOfWord (before : List Char) : List Char → List Char × List Char
  | [] => ([], [])
  | c :: rest =>
    if c == '-' && endsPart before && beginsPart rest then (['-'], rest)
    else if isPlainSpace c || (dashLength? before.head? (c :: rest)).isSome then ([], c :: rest)
    else
      let (word, after) := restOfWord (c :: before) rest
      (c :: word, after)

/-- The chunks of a text. -/
def chunksFrom : (fuel : Nat) → (before text : List Char) → List (List Char)
  | 0, _, _ => []
  | _ + 1, _, [] => []
  | fuel + 1, before, c :: rest =>
    let (chunk, after) :=
      if isPlainSpace c then
        ((c :: rest).takeWhile isPlainSpace, (c :: rest).dropWhile isPlainSpace)
      else
        match dashLength? before.head? (c :: rest) with
        | some length => ((c :: rest).take length, (c :: rest).drop length)
        | none =>
          let (word, after) := restOfWord (c :: before) rest
          (c :: word, after)
    chunk :: chunksFrom fuel (chunk.reverse ++ before) after

/-- The chunks of a text. -/
def chunks (text : List Char) : List (List Char) :=
  chunksFrom text.length [] text

/-- Whether a chunk holds blanks only. -/
def isBlankChunk (chunk : List Char) : Bool :=
  (strip chunk).isEmpty

/-- The chunks that fit into a width, their total width, and the others. -/
def fitting (width : Nat) :
    (used : Nat) → List (List Char) → List (List Char) × Nat × List (List Char)
  | used, [] => ([], used, [])
  | used, chunk :: rest =>
    if used + chunk.length ≤ width then
      let (line, used, others) := fitting width (used + chunk.length) rest
      (chunk :: line, used, others)
    else ([], used, chunk :: rest)

/-- Where a chunk that is too wide is cut. -/
def cutPlace (space : Nat) (chunk : List Char) : Nat :=
  let head := chunk.take space
  let afterHyphen := (head.reverse.dropWhile (· != '-')).length
  if 1 < afterHyphen && (head.take (afterHyphen - 1)).any (· != '-') then afterHyphen else space

/-- The lines of chunks; blanks at either end of a line are dropped, those in front of the first
line excepted. -/
def linesOf (width : Nat) : (fuel : Nat) → (first : Bool) → List (List Char) → List (List Char)
  | 0, _, _ => []
  | fuel + 1, first, pieces =>
    let pieces :=
      match pieces with
      | piece :: rest => if !first && isBlankChunk piece then rest else pieces
      | [] => []
    if pieces.isEmpty then []
    else
      let (line, used, others) := fitting width 0 pieces
      let (line, others) :=
        match others with
        | chunk :: rest =>
          if width < chunk.length then
            let place := cutPlace (width - used) chunk
            (line ++ [chunk.take place], chunk.drop place :: rest)
          else (line, others)
        | [] => (line, [])
      let line := if line.getLast?.any isBlankChunk then line.dropLast else line
      if line.isEmpty then linesOf width fuel first others
      else line.flatten :: linesOf width fuel false others

/-- The lines of a text whose spaces are folded. -/
def wrap (width : Nat) (text : List Char) : List (List Char) :=
  linesOf width (2 * text.length + 1) true (chunks text)

end ApiCompiler.Text
