import ApiCompiler.Text.Alphanumeric
import ApiCompiler.Text.Digits

/-!
# Identifiers of the generated code

A text becomes an identifier by replacing what cannot stand in a word, putting an underscore before
a leading digit, and appending underscores until it is neither a reserved word of the language nor a
name reserved by its surroundings. The first of numbered candidates that is not taken is found: when
more candidates are tried than names are taken and no two candidates coincide, it is free.
-/

namespace ApiCompiler.Naming

/-! ## Fresh names -/

/-- The least index below the bound whose candidate is not taken, or the bound itself. -/
def leastFree (isTaken : Nat → Bool) (bound : Nat) : Nat :=
  ((List.range bound).find? fun i ↦ !isTaken i).getD bound

/-- The first candidate that is not in the list of taken names. -/
def firstFree (taken : List String) (candidate : Nat → String) : String :=
  candidate (leastFree (fun i ↦ taken.contains (candidate i)) (taken.length + 1))

/-- A base name and the same with the numbers from two on. -/
def numbered (base : String) (separator : String) : Nat → String
  | 0 => base
  | i + 1 => base ++ separator ++ toString (i + 2)

/-- The text followed by some number of underscores. -/
def underscored (base : String) (count : Nat) : String :=
  base ++ String.ofList (List.replicate count '_')

/-! ## Identifiers -/

/-- The reserved words of the generated language. -/
def keywords : List String :=
  ["False", "None", "True", "and", "as", "assert", "async", "await", "break", "class", "continue",
    "def", "del", "elif", "else", "except", "finally", "for", "from", "global", "if", "import",
    "in", "is", "lambda", "nonlocal", "not", "or", "pass", "raise", "return", "try", "while",
    "with", "yield"]

/-- A reserved word of the generated language. -/
def isKeyword (name : String) : Bool :=
  keywords.contains name

/-- A text in which every character that is not a word character is an underscore. -/
def wordChars (text : List Char) : List Char :=
  text.map fun c ↦ if Text.isWordChar c then c else '_'

/-- The text as a word that is not empty and has no leading digit. -/
def identifierStem (text : List Char) : List Char :=
  match wordChars text with
  | [] => ['_']
  | c :: rest => if Text.isAnyDigit c then '_' :: c :: rest else c :: rest

/-- The identifier of a text, apart from keywords and from the reserved names. -/
def identifier (text : String) (reserved : List String) : String :=
  firstFree (keywords ++ reserved) (underscored (String.ofList (identifierStem text.toList)))

end ApiCompiler.Naming
