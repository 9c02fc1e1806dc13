import ApiCompiler.Text.Number
import ApiCompiler.Text.Surrogate
import ApiCompiler.Value

/-!
# Bracket notation

Reading of JSON text with its usual extensions: `NaN` and the two infinities are numbers, a key that
is repeated keeps its first place and its last value, and integers may have up to 4300 digits. A
number with a fraction or an exponent is a floating-point number, any other is an integer. Brackets
may be nested only so deep.
-/

namespace ApiCompiler.Json

/-- White space between tokens. -/
def isSpace (c : Char) : Bool :=
  c == ' ' || c == '\t' || c == '\n' || c == '\r'

/-- The text after leading white space. -/
def skipSpace (input : List Char) : List Char :=
  input.dropWhile isSpace

/-- The value of a hexadecimal digit. -/
def hexValue? (c : Char) : Option Nat :=
  if c.isDigit then some (c.toNat - 48)
  else if 'a' ≤ c && c ≤ 'f' then some (c.toNat - 87)
  else if 'A' ≤ c && c ≤ 'F' then some (c.toNat - 55)
  else none

/-- The number that four hexadecimal digits stand for. -/
def hexFour? (a b c d : Char) : Option Nat := do
  return (((← hexValue? a) * 16 + (← hexValue? b)) * 16 + (← hexValue? c)) * 16 + (← hexValue? d)

/-- The character of a pair of surrogates. -/
def joinSurrogates (high low : Nat) : Char :=
  Char.ofNat (0x10000 + (high - 0xd800) * 0x400 + (low - 0xdc00))

/-- The rest of a quoted text after its opening quote, with the characters read so far reversed. -/
def readText (done : List Char) : List Char → Option (List Char × List Char)
  | [] => none
  | '"' :: rest => some (done.reverse, rest)
  | '\\' :: 'u' :: a :: b :: c :: d :: '\\' :: 'u' :: e :: f :: g :: h :: rest =>
    match hexFour? a b c d, hexFour? e f g h with
    | some high, some low =>
      if 0xd800 ≤ high && high < 0xdc00 && 0xdc00 ≤ low && low < 0xe000 then
        readText (joinSurrogates high low :: done) rest
      else readText (Text.charOfCode high :: done) ('\\' :: 'u' :: e :: f :: g :: h :: rest)
    | some unit, none =>
      readText (Text.charOfCode unit :: done) ('\\' :: 'u' :: e :: f :: g :: h :: rest)
    | none, _ => none
  | '\\' :: 'u' :: a :: b :: c :: d :: rest =>
    match hexFour? a b c d with
    | some unit => readText (Text.charOfCode unit :: done) rest
    | none => none
  | '\\' :: c :: rest =>
    match c with
    | '"' => readText ('"' :: done) rest
    | '\\' => readText ('\\' :: done) rest
    | '/' => readText ('/' :: done) rest
    | 'b' => readText (Char.ofNat 8 :: done) rest
    | 'f' => readText (Char.ofNat 12 :: done) rest
    | 'n' => readText ('\n' :: done) rest
    | 'r' => readText ('\r' :: done) rest
    | 't' => readText ('\t' :: done) rest
    | _ => none
  | c :: rest => if c.toNat < 32 then none else readText (c :: done) rest
termination_by input => input.length

/-- The number that decimal digits stand for. -/
def natOfDigits (digits : List Char) : Nat :=
  digits.foldl (fun n c ↦ n * 10 + (c.toNat - 48)) 0

/-- A point with at least one digit, if the text goes on so. -/
def splitFraction : List Char → List Char × List Char
  | '.' :: rest =>
    let digits := rest.takeWhile Char.isDigit
    if digits.isEmpty then ([], '.' :: rest) else (digits, rest.dropWhile Char.isDigit)
  | input => ([], input)

/-- The exponent's digits with its sign, if the text goes on with an exponent. -/
def splitExponent (input : List Char) : Option (Bool × List Char) × List Char :=
  match input with
  | e :: rest =>
    if e == 'e' || e == 'E' then
      let negative := rest.head? == some '-'
      let body := if negative || rest.head? == some '+' then rest.tail else rest
      let digits := body.takeWhile Char.isDigit
      if digits.isEmpty then (none, input)
      else (some (negative, digits), body.dropWhile Char.isDigit)
    else (none, input)
  | [] => (none, [])

/-- A signed exponent. -/
def exponentOf : Option (Bool × List Char) → Int
  | none => 0
  | some (negative, digits) =>
    let n : Int := natOfDigits digits
    if negative then -n else n

/-- A number, after its sign. -/
def readNumber (negative : Bool) (input : List Char) : Option (Value × List Char) :=
  let run := input.takeWhile Char.isDigit
  let whole := if run.head? == some '0' then ['0'] else run
  let rest := input.drop whole.length
  if whole.isEmpty then none
  else
    let (fraction, rest) := splitFraction rest
    let (exponent, rest) := splitExponent rest
    if fraction.isEmpty && exponent.isNone then
      if Text.maxDigits < whole.length then none
      else
        let n : Int := natOfDigits whole
        some (.int (if negative then -n else n), rest)
    else
      let digits := natOfDigits (whole ++ fraction)
      some (.float (.ofDecimal negative digits (exponentOf exponent - fraction.length)), rest)

/-- The rest of the input after a fixed word. -/
def afterWord? (word : String) (input : List Char) : Option (List Char) :=
  if word.toList.isPrefixOf input then some (input.drop word.length) else none

/-- The values that are written as words. -/
def words : List (String × Value) :=
  [("null", .null), ("true", .bool true), ("false", .bool false), ("NaN", .float .nan),
    ("Infinity", .float (.infinity false)), ("-Infinity", .float (.infinity true))]

/-- A value that is written as a word. -/
def readWord? (input : List Char) : Option (Value × List Char) :=
  words.findSome? fun (word, value) ↦ (afterWord? word input).map fun rest ↦ (value, rest)

/-- The two kinds of brackets. -/
inductive Collection where
  | array
  | object
  deriving DecidableEq

/-- Why a text has no value. -/
inductive Fault where
  | malformed
  | tooDeep (collection : Collection)
  deriving DecidableEq

/-- The most brackets that may stand around a value. -/
def maxDepth : Nat := 988

/-- A step that may find the text malformed. -/
def orMalformed {α : Type} : Option α → Except Fault α
  | some a => .ok a
  | none => .error .malformed

mutual
/-- One value, with the input after it, given how many brackets may be opened. -/
def readValue : (fuel room : Nat) → List Char → Except Fault (Value × List Char)
  | 0, _, _ => .error .malformed
  | fuel + 1, room, input =>
    match readWord? input with
    | some found => .ok found
    | none =>
      match input with
      | '"' :: rest => do
        let (chars, rest) ← orMalformed (readText [] rest)
        return (.text (String.ofList chars), rest)
      | '[' :: rest =>
        match room with
        | 0 => .error (.tooDeep .array)
        | room + 1 =>
          match skipSpace rest with
          | ']' :: rest => .ok (.list [], rest)
          | rest => readItems fuel room [] rest
      | '\x7b' :: rest =>
        match room with
        | 0 => .error (.tooDeep .object)
        | room + 1 =>
          match skipSpace rest with
          | '\x7d' :: rest => .ok (.map [], rest)
          | rest => readEntries fuel room [] rest
      | '-' :: rest => orMalformed (readNumber true rest)
      | input => orMalformed (readNumber false input)
termination_by structural fuel => fuel
/-- The items of a list and its closing bracket, with the items read so far reversed. -/
def readItems : (fuel room : Nat) → List Value → List Char → Except Fault (Value × List Char)
  | 0, _, _, _ => .error .malformed
  | fuel + 1, room, done, input =>
    match readValue fuel room input with
    | .error fault => .error fault
    | .ok (item, rest) =>
      match skipSpace rest with
      | ',' :: rest => readItems fuel room (item :: done) (skipSpace rest)
      | ']' :: rest => .ok (.list (item :: done).reverse, rest)
      | _ => .error .malformed
termination_by structural fuel => fuel
/-- The entries of a mapping and its closing brace, with the entries read so far reversed. -/
def readEntries :
    (fuel room : Nat) → List (Value × Value) → List Char → Except Fault (Value × List Char)
  | 0, _, _, _ => .error .malformed
  | fuel + 1, room, done, input =>
    match input with
    | '"' :: rest =>
      match readText [] rest with
      | none => .error .malformed
      | some (key, rest) =>
        match skipSpace rest with
        | ':' :: rest =>
          match readValue fuel room (skipSpace rest) with
          | .error fault => .error fault
          | .ok (value, rest) =>
            let done := (.text (String.ofList key), value) :: done
            match skipSpace rest with
            | ',' :: rest => readEntries fuel room done (skipSpace rest)
            | '\x7d' :: rest => .ok (.map (Value.Keyed.ofList done.reverse), rest)
            | _ => .error .malformed
        | _ => .error .malformed
    | _ => .error .malformed
termination_by structural fuel => fuel
end

/-- The value of a whole text. -/
def read (text : String) : Except Fault Value :=
  let input := text.toList
  match readValue (2 * input.length + 2) maxDepth (skipSpace input) with
  | .ok (value, rest) => if (skipSpace rest).isEmpty then .ok value else .error .malformed
  | .error fault => .error fault

end ApiCompiler.Json
