/-!
# Binary floating point

Numbers of the 64-bit binary format, with exact rounding. A finite magnitude is a whole number of
*units*, where one unit is the smallest positive number `2 ^ (-1074)`, so magnitudes are compared,
added and printed in natural-number arithmetic. Every bit pattern has one representation, apart from
the many patterns that are not a number.
-/

namespace ApiCompiler

/-- The number of fractions that go with one exponent. -/
abbrev Binary64.fractionCount : Nat :=
  1 <<< 52

/-- A 64-bit binary floating-point number. -/
inductive Binary64 where
  | nan
  | infinity (negative : Bool)
  | finite (negative : Bool) (exponent : Fin 2047) (fraction : Fin Binary64.fractionCount)
  deriving DecidableEq

namespace Binary64

/-- The zero of the given sign. -/
def zero (negative : Bool) : Binary64 :=
  finite negative 0 ⟨0, by decide⟩

/-- How many units make one. -/
def unitsPerOne : Nat :=
  1 <<< 1074

/-- The magnitude of a finite number in units. -/
def magnitude (exponent : Fin 2047) (fraction : Fin fractionCount) : Nat :=
  if exponent.val = 0 then fraction.val
  else (fractionCount + fraction.val) <<< (exponent.val - 1)

/-- The number of magnitude `mantissa * 2 ^ shift` units, for a mantissa of at most 53 bits that has
all of them when the shift is positive; infinite when the exponent does not fit. -/
def encode (negative : Bool) (mantissa shift : Nat) : Binary64 :=
  if h : mantissa < fractionCount then finite negative 0 ⟨mantissa, h⟩
  else if h : shift + 1 < 2047 ∧ mantissa - fractionCount < fractionCount then
    finite negative ⟨shift + 1, h.1⟩ ⟨mantissa - fractionCount, h.2⟩
  else infinity negative

/-- The quotient rounded to the nearest natural number, a half to the even neighbour. -/
def divideToEven (num den : Nat) : Nat :=
  let q := num / den
  let r := num % den
  if 2 * r > den || (2 * r == den && q % 2 == 1) then q + 1 else q

/-- The number nearest to `num / den` units, a half going to the even neighbour. -/
def ofUnitRatio (negative : Bool) (num den : Nat) : Binary64 :=
  let quotient := num / den
  let shift := if quotient < 2 * fractionCount then 0 else quotient.log2 - 52
  let mantissa := divideToEven num (den <<< shift)
  if mantissa = 2 * fractionCount then encode negative fractionCount (shift + 1)
  else encode negative mantissa shift

/-- The number nearest to `num / den`. -/
def ofRatio (negative : Bool) (num den : Nat) : Binary64 :=
  ofUnitRatio negative (num * unitsPerOne) den

/-- The number of decimal digits of a positive number; zero has none. -/
def digitCount (n : Nat) : Nat :=
  if n = 0 then 0 else (Nat.toDigits 10 n).length

/-- The number nearest to `digits * 10 ^ exponent`. Exponents far outside the range of the format
are decided without computing the power. -/
def ofDecimal (negative : Bool) (digits : Nat) (exponent : Int) : Binary64 :=
  let top := (digitCount digits : Int) + exponent
  if digits = 0 then zero negative
  else if top > 310 then infinity negative
  else if top < -330 then zero negative
  else if exponent < 0 then ofRatio negative digits (Nat.pow 10 exponent.natAbs)
  else ofRatio negative (digits * Nat.pow 10 exponent.natAbs) 1

/-- The number nearest to an integer. -/
def ofInt (n : Int) : Binary64 :=
  ofRatio (n < 0) n.natAbs 1

/-- The number with the opposite sign. -/
def neg : Binary64 → Binary64
  | nan => nan
  | infinity s => infinity !s
  | finite s e f => finite (!s) e f

/-- Neither infinite nor undefined. -/
def isFinite : Binary64 → Bool
  | finite .. => true
  | _ => false

/-- The signed number of units of a finite number. -/
def units? : Binary64 → Option Int
  | finite negative e f =>
    let m : Int := magnitude e f
    some (if negative then -m else m)
  | _ => none

/-- The integer that a number equals, if there is one. -/
def toInt? (x : Binary64) : Option Int :=
  x.units?.bind fun u ↦
    if u.natAbs % unitsPerOne = 0 then some (Int.tdiv u unitsPerOne) else none

/-- Numeric equality: the two zeros are equal and nothing equals an undefined number. -/
def equals : Binary64 → Binary64 → Bool
  | nan, _ => false
  | _, nan => false
  | infinity s, infinity t => s == t
  | x, y =>
    match x.units?, y.units? with
    | some u, some v => u == v
    | _, _ => false

/-- Greater than zero. -/
def isPositive : Binary64 → Bool
  | nan => false
  | infinity s => !s
  | finite s e f => !s && 0 < magnitude e f

/-- Equal to zero, of either sign. -/
def isZero : Binary64 → Bool
  | finite _ e f => magnitude e f == 0
  | _ => false

/-- The number nearest to a signed number of units; an exact zero takes the given sign. -/
def ofUnits (units : Int) (zeroNegative : Bool) : Binary64 :=
  if units = 0 then zero zeroNegative else ofUnitRatio (units < 0) units.natAbs 1

/-- The sign bit. -/
def isNegative : Binary64 → Bool
  | nan => false
  | infinity s => s
  | finite s _ _ => s

/-- The rounded sum. -/
def add : Binary64 → Binary64 → Binary64
  | nan, _ => nan
  | _, nan => nan
  | infinity s, infinity t => if s = t then infinity s else nan
  | infinity s, _ => infinity s
  | _, infinity t => infinity t
  | x, y => ofUnits (x.units?.getD 0 + y.units?.getD 0) (x.isNegative && y.isNegative)

/-- The rounded product. -/
def mul (x y : Binary64) : Binary64 :=
  let negative := x.isNegative != y.isNegative
  match x, y with
  | nan, _ => nan
  | _, nan => nan
  | infinity _, y => if y.isZero then nan else infinity negative
  | x, infinity _ => if x.isZero then nan else infinity negative
  | finite _ e f, finite _ e' f' =>
    ofUnitRatio negative (magnitude e f * magnitude e' f') unitsPerOne

end Binary64

end ApiCompiler
