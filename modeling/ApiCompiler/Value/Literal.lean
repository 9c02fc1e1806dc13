import ApiCompiler.Binary64.Format
import ApiCompiler.Text.Literal
import ApiCompiler.Value

/-!
# Literals of values

A value as an expression of the generated language. The *display* form is the text itself for a
text, the standard form for dates and times, and the literal for everything else.
-/

namespace ApiCompiler

/-- The decimal digits of an integer with its sign. -/
def intChars (n : Int) : List Char :=
  Binary64.signed (n < 0) (Nat.toDigits 10 n.natAbs)

/-- The literal of an integer. -/
def intLiteral (n : Int) : String :=
  String.ofList (intChars n)

/-- Texts with a separator between neighbours. -/
def joinChars (separator : List Char) : List (List Char) → List Char
  | [] => []
  | [x] => x
  | x :: rest => x ++ separator ++ joinChars separator rest

/-- The literal of a truth value. -/
def boolChars (b : Bool) : List Char :=
  (if b then "True" else "False").toList

/-- One byte inside a literal with the given quote. -/
def byteChars (quote : Char) (b : UInt8) : List Char :=
  let n := b.toNat
  if n < 0x20 || 0x7e < n then
    if n == 9 then ['\\', 't']
    else if n == 10 then ['\\', 'n']
    else if n == 13 then ['\\', 'r']
    else Text.codeEscape n
  else Text.literalChar quote (Char.ofNat n)

/-- The literal of a byte sequence. -/
def bytesLiteralChars (content : List UInt8) : List Char :=
  let quote := Text.literalQuote (content.map fun b ↦ Char.ofNat b.toNat)
  'b' :: quote :: content.flatMap (byteChars quote) ++ [quote]

/-- Numbers separated by commas. -/
def numberListChars (numbers : List Nat) : List Char :=
  joinChars [',', ' '] (numbers.map (Nat.toDigits 10))

/-- The literal of a date. -/
def Date.literalChars (d : Date) : List Char :=
  "datetime.date(".toList ++ numberListChars [d.year, d.month, d.day] ++ [')']

/-- The literal of a duration in whole seconds. -/
def durationChars (seconds : Int) : List Char :=
  let days := Int.fdiv seconds 86400
  let rest := Int.fmod seconds 86400
  let parts := (if days = 0 then [] else ["days=".toList ++ intChars days]) ++
    (if rest = 0 then [] else ["seconds=".toList ++ intChars rest])
  "datetime.timedelta(".toList ++ (if parts.isEmpty then ['0'] else joinChars [',', ' '] parts) ++
    [')']

/-- The literal of an offset from universal time. -/
def zoneChars (seconds : Int) : List Char :=
  if seconds = 0 then "datetime.timezone.utc".toList
  else "datetime.timezone(".toList ++ durationChars seconds ++ [')']

/-- The literal of an instant. -/
def Timestamp.literalChars (t : Timestamp) : List Char :=
  let seconds :=
    if t.microsecond ≠ 0 then [t.second, t.microsecond]
    else if t.second ≠ 0 then [t.second] else []
  "datetime.datetime(".toList ++
    numberListChars ([t.date.year, t.date.month, t.date.day, t.hour, t.minute] ++ seconds) ++
    (t.offset.elim [] fun s ↦ ", tzinfo=".toList ++ zoneChars s) ++ [')']

namespace Value

mutual
/-- The literal of a value, as characters. -/
def literalChars : Value → List Char
  | null => "None".toList
  | bool b => boolChars b
  | int n => intChars n
  | float x => x.literalChars
  | text s => Text.literalChars s.toList
  | list items => '[' :: joinChars [',', ' '] (literalItems items) ++ [']']
  | map entries => '{' :: joinChars [',', ' '] (literalEntries entries) ++ ['}']
  | date d => d.literalChars
  | timestamp t => t.literalChars
  | bytes content => bytesLiteralChars content
  | set members =>
    if members.isEmpty then "set()".toList
    else '{' :: joinChars [',', ' '] (literalItems members) ++ ['}']
  | endless => "...".toList
termination_by structural v => v
/-- The literals of several values. -/
def literalItems : List Value → List (List Char)
  | [] => []
  | v :: rest => literalChars v :: literalItems rest
termination_by structural vs => vs
/-- The literals of several entries. -/
def literalEntries : Entries → List (List Char)
  | [] => []
  | (k, v) :: rest => (literalChars k ++ ':' :: ' ' :: literalChars v) :: literalEntries rest
termination_by structural es => es
end

/-- The literal of a value. -/
def literal (v : Value) : String :=
  String.ofList v.literalChars

/-- The display form of a value. -/
def display : Value → String
  | text s => s
  | date d => String.ofList d.isoChars
  | timestamp t => String.ofList (t.isoChars ' ')
  | v => v.literal

end Value

end ApiCompiler
