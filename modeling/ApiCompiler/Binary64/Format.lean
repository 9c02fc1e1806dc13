import ApiCompiler.Binary64

/-!
# Written forms of floating-point numbers

The shortest decimal significand reads back as a given number, and of those it is the nearest. For
each number of digits the two neighbours of the value on that decimal grid are tried by actually
reading them back; seventeen digits always suffice, and the exact expansion stands behind them.

Three forms are in use. A *literal* has the fewest digits that read back, positional from `1e-4` up
to `1e16` and always with a fraction or an exponent. The *general* form has at most six significant
digits and is positional from `1e-4` up to `1e6`. The *fixed* form has one place after the point.
-/

namespace ApiCompiler.Binary64

/-! ## Shortest decimals -/

/-- A positive decimal `digits * 10 ^ exponent`. -/
structure Decimal where
  /-- The significand. -/
  digits : Nat
  /-- The power of ten it is scaled by. -/
  exponent : Int
  deriving DecidableEq

/-- Trailing zeros of the significand moved into the exponent, at most `fuel` of them. -/
def Decimal.trim : (fuel : Nat) → Decimal → Decimal
  | 0, d => d
  | fuel + 1, d =>
    if d.digits != 0 && d.digits % 10 == 0 then trim fuel ⟨d.digits / 10, d.exponent + 1⟩ else d

/-- The exponent `k` with `10 ^ (k - 1) ≤ num / den < 10 ^ k`, for positive arguments. -/
def decimalPoint (num den : Nat) : Int :=
  if den ≤ num then digitCount (num / den)
  else 1 - (digitCount ((den + num - 1) / num - 1) : Int)

/-- The quotient of `num / den` by `10 ^ exponent`, with its remainder and the divisor. -/
def scaleDown (num den : Nat) (exponent : Int) : Nat × Nat × Nat :=
  let n := if exponent < 0 then num * Nat.pow 10 exponent.natAbs else num
  let d := if exponent < 0 then den else den * Nat.pow 10 exponent.natAbs
  (n / d, n % d, d)

/-- The neighbour on the grid of `count` digits that reads back as a magnitude, the nearer of the
two if both do and the even one if they are equally near. -/
def onGrid? (exponent : Fin 2047) (fraction : Fin fractionCount) (point : Int) (count : Nat) :
    Option Decimal :=
  let target := finite false exponent fraction
  let grid := point - count
  let (low, rest, step) := scaleDown (magnitude exponent fraction) unitsPerOne grid
  let lowOk := ofDecimal false low grid == target
  let highOk := ofDecimal false (low + 1) grid == target
  let takeHigh := highOk && (!lowOk || 2 * rest > step || (2 * rest == step && low % 2 == 1))
  if takeHigh then some ⟨low + 1, grid⟩
  else if lowOk then some ⟨low, grid⟩
  else none

/-- The shortest decimal that reads back as a positive magnitude. -/
def shortest (exponent : Fin 2047) (fraction : Fin fractionCount) : Decimal :=
  let point := decimalPoint (magnitude exponent fraction) unitsPerOne
  let exact : Decimal := ⟨magnitude exponent fraction * Nat.pow 5 1074, -1074⟩
  let found := (List.range 17).findSome? fun i ↦ onGrid? exponent fraction point (i + 1)
  match found with
  | some d => d.trim 20
  | none => exact

/-- A magnitude rounded to a number of significant digits, a half to the even neighbour. -/
def significant (exponent : Fin 2047) (fraction : Fin fractionCount) (count : Nat) : Decimal :=
  let num := magnitude exponent fraction
  let grid := decimalPoint num unitsPerOne - count
  let (low, rest, step) := scaleDown num unitsPerOne grid
  ⟨if 2 * rest > step || (2 * rest == step && low % 2 == 1) then low + 1 else low, grid⟩

/-! ## Forms -/

/-- The characters of a natural number in base ten. -/
def digitChars (n : Nat) : List Char :=
  Nat.toDigits 10 n

/-- A sign in front of a magnitude's text. -/
def signed (negative : Bool) (text : List Char) : List Char :=
  if negative then '-' :: text else text

/-- The exponent of scientific notation: a sign and at least two digits. -/
def exponentChars (exponent : Int) : List Char :=
  let digits := digitChars exponent.natAbs
  'e' :: (if exponent < 0 then '-' else '+') ::
    (if digits.length < 2 then '0' :: digits else digits)

/-- Digits with a point after the first one, if any follow it. -/
def pointAfterFirst : List Char → List Char
  | [] => []
  | [d] => [d]
  | d :: rest => d :: '.' :: rest

/-- Positional digits of a decimal, with a fraction only where it has one. -/
def positional (d : Decimal) : List Char :=
  let digits := digitChars d.digits
  if 0 ≤ d.exponent then digits ++ List.replicate d.exponent.toNat '0'
  else
    let places := d.exponent.natAbs
    if places < digits.length then
      digits.take (digits.length - places) ++ '.' :: digits.drop (digits.length - places)
    else '0' :: '.' :: List.replicate (places - digits.length) '0' ++ digits

/-- The exponent of a decimal in scientific notation. -/
def Decimal.scientificExponent (d : Decimal) : Int :=
  d.exponent + digitCount d.digits - 1

/-- A decimal in scientific notation. -/
def scientific (d : Decimal) : List Char :=
  pointAfterFirst (digitChars d.digits) ++ exponentChars d.scientificExponent

/-- The text of a number that is not finite. -/
def specialChars : Binary64 → List Char
  | nan => "nan".toList
  | infinity negative => signed negative "inf".toList
  | finite .. => []

/-- The literal of a number, as characters. -/
def literalChars : Binary64 → List Char
  | finite negative e f =>
    if magnitude e f = 0 then signed negative "0.0".toList
    else
      let d := shortest e f
      let x := d.scientificExponent
      let text :=
        if x < -4 || 16 ≤ x then scientific d
        else if 0 ≤ d.exponent then positional d ++ ".0".toList
        else positional d
      signed negative text
  | x => specialChars x

/-- The literal of a number: the fewest digits that read back as it. -/
def literal (x : Binary64) : String :=
  String.ofList x.literalChars

/-- The general form of a number, with at most six significant digits. -/
def general : Binary64 → String
  | finite negative e f =>
    let text :=
      if magnitude e f = 0 then ['0']
      else
        let d := significant e f 6
        let x := d.scientificExponent
        let t := d.trim 7
        if x < -4 || 6 ≤ x then scientific t else positional t
    String.ofList (signed negative text)
  | x => String.ofList (specialChars x)

/-- The fixed form of a number, with one place after the point. -/
def fixedOne : Binary64 → String
  | finite negative e f =>
    let tenths := divideToEven (magnitude e f * 10) unitsPerOne
    String.ofList (signed negative (digitChars (tenths / 10) ++ ['.'] ++ digitChars (tenths % 10)))
  | x => String.ofList (specialChars x)

end ApiCompiler.Binary64
