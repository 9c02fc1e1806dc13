/-!
# Labels in ASCII

A label of a host name with characters beyond ASCII is written as its ASCII characters followed by
the places of the others, as numbers whose digits have variable weights.
-/

namespace ApiCompiler.HostName

/-- The weight at which the next number begins to be read. -/
def adaptedBias (delta count : Nat) (first : Bool) : Nat :=
  let delta := if first then delta / 700 else delta / 2
  let rec reduce (fuel delta k : Nat) : Nat :=
    match fuel with
    | 0 => k
    | fuel + 1 =>
      if 455 < delta then reduce fuel (delta / 35) (k + 36) else k + 36 * delta / (delta + 38)
  let delta := delta + delta / count
  reduce (delta + 1) delta 0

/-- A digit: letters stand for 0 to 25 and decimal digits for 26 to 35. -/
def digitOf (n : Nat) : Char :=
  if n < 26 then Char.ofNat (97 + n) else Char.ofNat (22 + n)

/-- The value of a digit. -/
def valueOf? (c : Char) : Option Nat :=
  let c := c.toLower
  if 'a' ≤ c && c ≤ 'z' then some (c.toNat - 97)
  else if c.isDigit then some (c.toNat - 22)
  else none

/-- The least digit that does not end a number, at a weight. -/
def threshold (weight bias : Nat) : Nat :=
  if weight ≤ bias then 1 else if bias + 26 ≤ weight then 26 else weight - bias

/-- The digits of a number. -/
def numberDigits (bias : Nat) : (fuel weight n : Nat) → List Char
  | 0, _, _ => []
  | fuel + 1, weight, n =>
    let t := threshold weight bias
    if n < t then [digitOf n]
    else
      digitOf (t + (n - t) % (36 - t)) ::
        numberDigits bias fuel (weight + 36) ((n - t) / (36 - t))

/-- What is carried from character to character while a label is written. -/
structure Writing where
  delta : Nat := 0
  bias : Nat := 72
  handled : Nat
  first : Bool := true
  digits : List Char := []

/-- The state after the places of one code point. -/
def writePlaces (label : List Char) (code : Nat) (state : Writing) : Writing :=
  label.foldl
    (fun s c ↦
      if c.toNat < code then { s with delta := s.delta + 1 }
      else if c.toNat == code then
        { delta := 0
          bias := adaptedBias s.delta (s.handled + 1) s.first
          handled := s.handled + 1
          first := false
          digits := s.digits ++ numberDigits s.bias (s.delta + 1) 36 s.delta }
      else s)
    state

/-- The digits for the characters of a label beyond ASCII, by code points in increasing order. -/
def writeCodes (label : List Char) : (codes : List Nat) → (previous : Nat) → Writing → List Char
  | [], _, state => state.digits
  | code :: rest, previous, state =>
    let state := { state with delta := state.delta + (code - previous) * (state.handled + 1) }
    let state := writePlaces label code state
    writeCodes label rest (code + 1) { state with delta := state.delta + 1 }

/-- A label in ASCII. -/
def punycode (label : List Char) : List Char :=
  let basic := label.filter fun c ↦ c.toNat < 128
  let codes := ((label.filter fun c ↦ 128 ≤ c.toNat).map Char.toNat).eraseDups.mergeSort
  let digits := writeCodes label codes 128 { handled := basic.length }
  (if basic.isEmpty then [] else basic ++ ['-']) ++ digits

/-- A number at the front of digits, and the digits after it. -/
def readNumber? (bias : Nat) : (weight factor sum : Nat) → List Char → Option (Nat × List Char)
  | _, _, _, [] => none
  | weight, factor, sum, c :: rest =>
    match valueOf? c with
    | none => none
    | some digit =>
      let t := threshold weight bias
      if digit < t then some (sum + digit * factor, rest)
      else readNumber? bias (weight + 36) (factor * (36 - t)) (sum + digit * factor) rest

/-- The character of a code point. A surrogate, which no label may hold, gives a character that no
label may hold either. -/
def characterOf (code : Nat) : Char :=
  if 0xd800 ≤ code && code < 0xe000 then '\uffff' else Char.ofNat code

/-- Puts the characters that digits stand for in their places of a label. -/
def readPlaces? (label : List Char) (code start bias : Nat) (first : Bool) :
    (fuel : Nat) → List Char → Option (List Char)
  | _, [] => some label
  | 0, _ => none
  | fuel + 1, digits =>
    match readNumber? bias 36 1 0 digits with
    | none => none
    | some (delta, rest) =>
      let place := start + delta
      let count := label.length + 1
      let code := code + place / count
      let place := place % count
      if 0x10ffff < code then none
      else
        readPlaces? (label.take place ++ characterOf code :: label.drop place) code (place + 1)
          (adaptedBias delta count first) false fuel rest

/-- The label that is written so in ASCII. -/
def ofPunycode? (text : List Char) : Option (List Char) :=
  let digits := (text.reverse.takeWhile (· != '-')).reverse
  readPlaces? (text.take (text.length - digits.length - 1)) 128 0 72 true digits.length digits

end ApiCompiler.HostName
