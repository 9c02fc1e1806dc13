import ApiCompiler.Text.Base64
import ApiCompiler.Text.Surrogate

/-!
# Shifted ASCII

A character set of seven bits: ASCII characters stand for themselves, and all others are written in
UTF-16 with six bits to a character between a plus and a minus sign, of which the minus sign may be
left out.
-/

namespace ApiCompiler.Charset

/-- A section of other characters as far as it is read. -/
structure Section where
  /-- The bits that belong to no unit yet. -/
  pending : Nat := 0
  /-- How many they are. -/
  count : Nat := 0
  /-- The first unit of a pair whose second one is missing. -/
  high : Option Nat := none

/-- The characters of a unit behind the first one of a pair, and the first one of the next pair. -/
def addUnit (high : Option Nat) (unit : Nat) : List Char × Option Nat :=
  let alone : List Char × Option Nat :=
    if 0xd800 ≤ unit && unit < 0xdc00 then ([], some unit) else ([Text.charOfCode unit], none)
  match high with
  | some first =>
    if 0xdc00 ≤ unit && unit < 0xe000 then
      ([Char.ofNat (0x10000 + (first - 0xd800) * 0x400 + (unit - 0xdc00))], none)
    else (Text.charOfCode first :: alone.1, alone.2)
  | none => alone

/-- The characters that six more bits complete, and the section after them. -/
def Section.add (state : Section) (value : Nat) : List Char × Section :=
  let pending := state.pending * 64 + value
  let count := state.count + 6
  if 16 ≤ count then
    let rest := 1 <<< (count - 16)
    let (chars, high) := addUnit state.high (pending / rest)
    (chars, ⟨pending % rest, count - 16, high⟩)
  else ([], { state with pending, count })

/-- Whether a section may end without an error. -/
def Section.isPadded (state : Section) : Bool :=
  state.count < 6 && state.pending == 0

/-- The text of bytes; inside a section its state is given. What is malformed is replaced. -/
def decodeShifted : (state : Option Section) → List UInt8 → List Char
  | none, [] => []
  | some state, [] => if state.isPadded && state.high.isNone then [] else ['\ufffd']
  | some state, byte :: rest =>
    let c := Char.ofNat byte.toNat
    match Text.base64Value? c with
    | some value =>
      let (chars, state) := state.add value
      chars ++ decodeShifted (some state) rest
    | none =>
      if !state.isPadded then '\ufffd' :: decodeShifted none rest
      else
        let lone := if state.high.isSome && byte.toNat < 128 then ['\ufffd'] else []
        let own := if c == '-' then [] else if byte.toNat < 128 then [c] else ['\ufffd']
        lone ++ own ++ decodeShifted none rest
  | none, byte :: rest =>
    let c := Char.ofNat byte.toNat
    if c == '+' then
      match rest with
      | [] => decodeShifted (some {}) []
      | next :: more =>
        if next == 45 then '+' :: decodeShifted none more
        else if (Text.base64Value? (Char.ofNat next.toNat)).isNone then
          '\ufffd' :: decodeShifted none more
        else decodeShifted (some {}) (next :: more)
    else if byte.toNat < 128 then c :: decodeShifted none rest
    else '\ufffd' :: decodeShifted none rest

end ApiCompiler.Charset
