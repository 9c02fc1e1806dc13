import ApiCompiler.Text.Base64
import ApiCompiler.Text.Case
import ApiCompiler.Text.Number
import ApiCompiler.Text.Split
import ApiCompiler.Value
import ApiCompiler.Yaml.Cursor
import ApiCompiler.Yaml.NodeType

/-!
# Values of scalars

A scalar of a given type stands for a value, or for none when its text is no spelling of the type.
Integers may be written in base two, eight, ten, sixteen or sixty, floating-point numbers in base
ten or sixty; underscores between digits do not count.
-/

namespace ApiCompiler.Yaml

/-- The value of a digit in bases up to sixteen; decimal digits may be of any script. -/
def digitValue? (c : Char) : Option Nat :=
  match Text.decimalValue? c with
  | some n => some n
  | none => hexValue? c

/-- The number that digits stand for in a base. -/
def ofDigits? (base : Nat) (digits : List Char) : Option Nat :=
  if digits.isEmpty then none
  else
    digits.foldl
      (fun n c ↦ do
        let d ← digitValue? c
        if d < base then return (← n) * base + d else none)
      (some 0)

/-- The letter that may stand after a zero in front of digits of a base. -/
def baseLetter? : Nat → Option Char
  | 2 => some 'b'
  | 8 => some 'o'
  | 16 => some 'x'
  | _ => none

/-- The digits of a number without the mark of its base. -/
def withoutBaseMark (base : Nat) : List Char → List Char
  | '0' :: c :: rest =>
    if (baseLetter? base).any fun letter ↦ c == letter || c == letter.toUpper then rest
    else '0' :: c :: rest
  | digits => digits

/-- An integer in free text in a base. In base ten too many digits are a fault, whatever is after
them. -/
def readBase (base : Nat) (text : List Char) : Except Fault Int :=
  let (negative, body) := Text.splitSign (Text.stripWhere Text.isBlankOfNumber text)
  let digits := withoutBaseMark base body
  let count := (digits.takeWhile fun c ↦ (Text.decimalValue? c).isSome).length
  if base = 10 ∧ Text.maxDigits < count then .error (.scalar (.tooManyDigits count))
  else
    match ofDigits? base digits with
    | none => .error (.scalar (.integer base (String.ofList text)))
    | some n => .ok (if negative then -n else n)

/-- The text of a number without underscores, and whether a minus stands in front of it. -/
def splitNumber (text : List Char) : Except Fault (Bool × List Char) :=
  match text.filter (· != '_') with
  | [] => .error (.scalar .empty)
  | c :: rest =>
    if c == '-' then .ok (true, rest)
    else if c == '+' then .ok (false, rest)
    else .ok (false, c :: rest)

/-- An integer without its sign. -/
def readMagnitude : List Char → Except Fault Int
  | [] => .error (.scalar .empty)
  | ['0'] => .ok 0
  | '0' :: 'b' :: rest => readBase 2 rest
  | '0' :: 'x' :: rest => readBase 16 rest
  | '0' :: rest => readBase 8 ('0' :: rest)
  | text =>
    if text.contains ':' then do
      let parts ← (Text.splitOn ':' text).mapM (readBase 10)
      return parts.foldl (fun n part ↦ n * 60 + part) 0
    else readBase 10 text

/-- An integer. -/
def readInt (text : List Char) : Except Fault Int := do
  let (negative, body) ← splitNumber text
  let n ← readMagnitude body
  return if negative then -n else n

/-- The sum of parts in base sixty, the last one first, with the weight of the first one. -/
def sumSixtieths (weight : Nat) (total : Binary64) : List Binary64 → Except Fault Binary64
  | [] => .ok total
  | part :: rest =>
    let factor := Binary64.ofInt weight
    if factor.toInt?.isSome then sumSixtieths (weight * 60) (total.add (part.mul factor)) rest
    else .error (.scalar .floatTooLarge)

/-- A part of a floating-point number. -/
def readFloatPart (text : List Char) : Except Fault Binary64 :=
  match Text.readFloat? (String.ofList text) with
  | some x => .ok x
  | none => .error (.scalar (.float (String.ofList text)))

/-- A floating-point number. -/
def readFloat (text : List Char) : Except Fault Binary64 := do
  let (negative, body) ← splitNumber (Text.lower text)
  if body == ".inf".toList then return .infinity negative
  if body == ".nan".toList then return .nan
  let x ←
    if body.contains ':' then do
      let parts ← (Text.splitOn ':' body).mapM readFloatPart
      sumSixtieths 1 (.ofInt 0) parts.reverse
    else readFloatPart body
  return if negative then x.neg else x

/-- The number that decimal digits stand for. -/
def natOf (digits : List Char) : Nat :=
  digits.foldl (fun n c ↦ n * 10 + (c.toNat - 48)) 0

/-- The millionths that the digits of a fraction stand for. -/
def microseconds (fraction : List Char) : Nat :=
  let digits := fraction.take 6
  natOf (digits ++ List.replicate (6 - digits.length) '0')

/-- Seconds east of universal time, less than a day. -/
def zoneOffset : Option ZoneText → Except Fault Int
  | none => .ok 0
  | some zone =>
    let n : Int := natOf zone.hours * 3600 + natOf (zone.minutes.getD []) * 60
    let seconds := if zone.negative then -n else n
    if n < 86400 then .ok seconds else .error (.scalar (.calendar (.offset seconds)))

/-- A fault of the calendar as a fault of a scalar. -/
def calendarValue {α : Type} : Except CalendarFault α → Except Fault α
  | .ok a => .ok a
  | .error fault => .error (.scalar (.calendar fault))

/-- A date or an instant. -/
def readTime (text : List Char) : Except Fault Value := do
  match readTime? (withoutFinalBreak text) with
  | none => throw (.scalar .timestamp)
  | some time =>
    let (year, month, day) := (natOf time.year, natOf time.month, natOf time.day)
    match time.clock with
    | none => return .date (← calendarValue (Date.ofParts year month day))
    | some (hour, minute, second, fraction) =>
      let offset ←
        match time.zone with
        | none => pure none
        | some zone => some <$> zoneOffset zone
      return .timestamp (← calendarValue (Timestamp.ofParts year month day (natOf hour)
        (natOf minute) (natOf second) (microseconds fraction) offset))

/-- A truth value, in any case of letters. -/
def readTruth (text : List Char) : Except Fault Value :=
  let word := String.ofList (Text.lower text)
  match truthWords.lookup word with
  | some b => .ok (.bool b)
  | none => .error (.scalar (.truth word))

/-- Bytes. -/
def readBytes (text : List Char) : Except Fault Value :=
  if text.all fun c ↦ c.toNat < 128 then
    match Text.base64? text with
    | some content => .ok (.bytes content)
    | none => .error .malformed
  else .error .malformed

/-- The value of a scalar of a type. -/
def scalarValue (type : NodeType) (text : String) : Except Fault Value :=
  match type with
  | .null => .ok .null
  | .bool => readTruth text.toList
  | .int => Value.int <$> readInt text.toList
  | .float => Value.float <$> readFloat text.toList
  | .text => .ok (.text text)
  | .bytes => readBytes text.toList
  | .time => readTime text.toList
  | _ => .error .malformed

end ApiCompiler.Yaml
