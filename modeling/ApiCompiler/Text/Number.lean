import ApiCompiler.Binary64
import ApiCompiler.Text.Split
import ApiCompiler.Text.Digits

/-!
# Numbers in free text

Numbers as people write them: blanks around them, a sign in front, decimal digits of any script, and
single underscores between digits. A floating-point number may have a fraction and an exponent, or
be one of the words for infinity and for no number, in any case of letters.
-/

namespace ApiCompiler.Text

/-- White space that may stand around a number: that of any script, but no separator of files,
groups, records or units. -/
def isBlankOfNumber (c : Char) : Bool :=
  isBlank c && !(28 ≤ c.toNat && c.toNat ≤ 31)

/-- A sign in front of a number, and the rest. -/
def splitSign : List Char → Bool × List Char
  | '-' :: rest => (true, rest)
  | '+' :: rest => (false, rest)
  | text => (false, text)

/-- Decimal digits with single underscores between them; the flag tells that a digit stands right
before the text. Gives the digits' values and the rest after them. -/
def splitDigits : (afterDigit : Bool) → List Char → List Nat × List Char
  | _, [] => ([], [])
  | afterDigit, c :: rest =>
    match decimalValue? c with
    | some d =>
      let (digits, rest) := splitDigits true rest
      (d :: digits, rest)
    | none =>
      if c == '_' && afterDigit && (rest.head?.map isDecimal).getD false then splitDigits false rest
      else ([], c :: rest)

/-- The number that digits stand for in base ten. -/
def ofDigits (digits : List Nat) : Nat :=
  digits.foldl (fun n d ↦ n * 10 + d) 0

/-- The most digits of an integer that is read or written. -/
def maxDigits : Nat := 4300

/-- The least number with too many digits. -/
def tooLong : Nat :=
  Nat.pow 10 maxDigits

/-- Whether an integer has too many digits. -/
def isTooLong (n : Int) : Bool :=
  tooLong ≤ n.natAbs

/-- What the texts about too many digits end with. -/
def digitsAdvice : String :=
  "use sys.set_int_max_str_digits() to increase the limit"

/-- The text for a number that would be written with too many digits. -/
def tooLongMessage : String :=
  "Exceeds the limit (" ++ toString maxDigits ++ " digits) for integer string conversion; " ++
    digitsAdvice

/-- The text for a number with too many digits. -/
def tooManyDigitsMessage (count : Nat) : String :=
  "Exceeds the limit (" ++ toString maxDigits ++ " digits) for integer string conversion: " ++
    "value has " ++ toString count ++ " digits; " ++ digitsAdvice

/-- An integer in free text. -/
def readInteger? (text : String) : Option Int :=
  let (negative, body) := splitSign (stripWhere isBlankOfNumber text.toList)
  match splitDigits false body with
  | ([], _) => none
  | (digits, []) =>
    let n : Int := ofDigits digits
    if maxDigits < digits.length then none else some (if negative then -n else n)
  | (_, _ :: _) => none

/-- The words for infinity and for no number. -/
def readSpecial? (negative : Bool) (body : List Char) : Option Binary64 :=
  let word := body.map Char.toLower
  if word = "inf".toList ∨ word = "infinity".toList then some (.infinity negative)
  else if word = "nan".toList then some .nan
  else none

/-- A fraction: a point and the digits after it, of which there may be none. -/
def splitPoint (text : List Char) : Option (List Nat) × List Char :=
  match text with
  | '.' :: rest =>
    let (digits, rest) := splitDigits false rest
    (some digits, rest)
  | _ => (none, text)

/-- An exponent at the end of a number, which may be absent. -/
def readExponent? : List Char → Option Int
  | [] => some 0
  | e :: rest =>
    if e == 'e' || e == 'E' then
      let (negative, body) := splitSign rest
      match splitDigits false body with
      | ([], _) => none
      | (digits, []) =>
        let n : Int := ofDigits digits
        some (if negative then -n else n)
      | (_, _ :: _) => none
    else none

/-- A floating-point number in free text. -/
def readFloat? (text : String) : Option Binary64 :=
  let (negative, body) := splitSign (stripWhere isBlankOfNumber text.toList)
  match readSpecial? negative body with
  | some x => some x
  | none =>
    let (whole, rest) := splitDigits false body
    let (fraction, rest) := splitPoint rest
    if whole.isEmpty && (fraction.getD []).isEmpty then none
    else
      (readExponent? rest).map fun exponent ↦
        let places := (fraction.getD []).length
        .ofDecimal negative (ofDigits (whole ++ fraction.getD [])) (exponent - places)

end ApiCompiler.Text
