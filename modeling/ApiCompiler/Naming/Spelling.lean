import ApiCompiler.Text.Case
import ApiCompiler.Text.Digits

/-!
# Spellings of a name

The words of a text are its runs of ASCII letters and digits. Joined with capitals they form the two
camel-case spellings. In snake case, word boundaries inside a camel-case name become underscores and
the name becomes lower case; as an identifier it keeps only small ASCII letters and digits, with
single underscores between its runs, and a text without any becomes one underscore.
-/

namespace ApiCompiler.Naming

/-! ## Camel case -/

/-- An ASCII letter or digit. -/
def isWordPart (c : Char) : Bool :=
  c.isAlphanum

/-- The word that is being read, reversed, in front of the words after it. -/
def pushWord (word : List Char) (words : List (List Char)) : List (List Char) :=
  if word.isEmpty then words else word.reverse :: words

/-- The runs of letters and digits, given the reversed beginning of the current run. -/
def wordsFrom (word : List Char) : List Char → List (List Char)
  | [] => pushWord word []
  | c :: rest =>
    if isWordPart c then wordsFrom (c :: word) rest else pushWord word (wordsFrom [] rest)

/-- The runs of letters and digits of a text. -/
def words (text : List Char) : List (List Char) :=
  wordsFrom [] text

/-- A word with its first letter in upper case. -/
def capitalized : List Char → List Char
  | [] => []
  | c :: rest => c.toUpper :: rest

/-- A word with its first letter in lower case. -/
def uncapitalized : List Char → List Char
  | [] => []
  | c :: rest => c.toLower :: rest

/-- Words joined with a capital at the start of each but the first. -/
def joinCamel : List (List Char) → List Char
  | [] => []
  | word :: rest => uncapitalized word ++ rest.flatMap capitalized

/-- The spelling with a small first letter: `bulk-edit` becomes `bulkEdit`. -/
def camel (text : String) : String :=
  String.ofList (joinCamel (words text.toList))

/-- The spelling with a capital first letter: `dto.Vehicle` becomes `DtoVehicle`. -/
def pascal (text : String) : String :=
  String.ofList ((words text.toList).flatMap capitalized)

/-! ## Snake case -/

/-- A capital begins a new word after a small letter or a digit, and at the end of a run of capitals
when a small letter follows it. -/
def isBoundary (before c : Char) (after : Option Char) : Bool :=
  c.isUpper && (before.isLower || Text.isDecimal before ||
    (before.isUpper && (after.map Char.isLower).getD false))

/-- The text with an underscore at each word boundary. -/
def markBoundaries : (before : Option Char) → List Char → List Char
  | _, [] => []
  | none, c :: rest => c :: markBoundaries (some c) rest
  | some b, c :: rest =>
    if isBoundary b c rest.head? then '_' :: c :: markBoundaries (some c) rest
    else c :: markBoundaries (some c) rest

/-- Camel case turned into snake case; other characters stay. -/
def snakeChars (text : List Char) : List Char :=
  Text.lower (markBoundaries none text)

/-- Camel case turned into snake case; other characters stay. -/
def snake (text : String) : String :=
  String.ofList (snakeChars text.toList)

/-- A character that a snake-case identifier keeps. -/
def isSnakePart (c : Char) : Bool :=
  c.isLower || c.isDigit

/-- The run that is being read, reversed, in front of the runs after it. -/
def pushRun (run : List Char) (runs : List (List Char)) : List (List Char) :=
  if run.isEmpty then runs else run.reverse :: runs

/-- The runs of kept characters, given the reversed beginning of the current run. -/
def snakeRunsFrom (run : List Char) : List Char → List (List Char)
  | [] => pushRun run []
  | c :: rest =>
    if isSnakePart c then snakeRunsFrom (c :: run) rest else pushRun run (snakeRunsFrom [] rest)

/-- Runs with an underscore between neighbours. -/
def joinRuns : List (List Char) → List Char
  | [] => []
  | [run] => run
  | run :: rest => run ++ '_' :: joinRuns rest

/-- The snake-case identifier of a text, as characters. -/
def snakeIdentifierChars (text : List Char) : List Char :=
  match joinRuns (snakeRunsFrom [] (snakeChars text)) with
  | [] => ['_']
  | chars => chars

/-- The snake-case identifier of a text. -/
def snakeIdentifier (text : String) : String :=
  String.ofList (snakeIdentifierChars text.toList)

end ApiCompiler.Naming
