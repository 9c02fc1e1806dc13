import ApiCompiler.CharacterName
import ApiCompiler.Charset.Grid
import ApiCompiler.HostName.Punycode
import ApiCompiler.Json
import ApiCompiler.Text.Surrogate

/-!
# Escaped texts

Texts in which escapes stand for characters by code point or by name, as in a literal, and bytes
stand for the characters of their numbers. Also texts in which all other characters follow the ASCII
ones as numbers.
-/

namespace ApiCompiler.Charset

/-- What the digits of an escape stand for: a code point behind some bytes, or how many bytes are
read until a byte that is no digit, or until the end. -/
inductive EscapeDigits where
  | code (code : Nat)
  | stopped (count : Nat)
  | ended

/-- Reads a number of hexadecimal digits. -/
def readHex : (count : Nat) → (code read : Nat) → List UInt8 → EscapeDigits
  | 0, code, _, _ => .code code
  | _ + 1, _, _, [] => .ended
  | count + 1, code, read, byte :: rest =>
    match Json.hexValue? (Char.ofNat byte.toNat) with
    | some digit => readHex count (code * 16 + digit) (read + 1) rest
    | none => .stopped read

/-- A character by a number of hexadecimal digits, after a backslash and a letter. -/
def hexStep (count : Nat) (rest : List UInt8) : Step :=
  match readHex count 0 0 rest with
  | .code code =>
    if code < 0x110000 then .found [Text.charOfCode code] (count + 2) else .wrong (count + 2)
  | .stopped read => .wrong (read + 2)
  | .ended => .unfinished

/-- The letters of escapes for single characters. -/
def letterEscapes : List (Char × Nat) :=
  [('\\', 92), ('\'', 39), ('"', 34), ('b', 8), ('f', 12), ('t', 9), ('n', 10), ('r', 13),
    ('v', 11), ('a', 7)]

/-- A byte as an octal digit. -/
def octalValue? (byte : UInt8) : Option Nat :=
  if 0x30 ≤ byte.toNat && byte.toNat ≤ 0x37 then some (byte.toNat - 0x30) else none

/-- A character by at most three octal digits, after a backslash. -/
def octalStep (bytes : List UInt8) : Step :=
  let digits := (bytes.take 3).map octalValue? |>.takeWhile Option.isSome |>.filterMap id
  .found [Char.ofNat (digits.foldl (fun n d ↦ 8 * n + d) 0)] (digits.length + 1)

/-- A character by its name between braces, after a backslash and a letter. -/
def nameStep : List UInt8 → Step
  | [] => .unfinished
  | 0x7b :: rest =>
    let name := rest.takeWhile (· != 0x7d)
    let text := String.ofList (name.map fun byte ↦ Char.ofNat byte.toNat)
    if name.length == rest.length then .unfinished
    else if name.isEmpty then .wrong 3
    else
      match CharacterName.code? text with
      | some code => .found [Text.charOfCode code] (name.length + 4)
      | none => .wrong (name.length + 4)
  | _ => .wrong 2

/-- What bytes begin with in a text with all escapes. -/
def escapedStep : List UInt8 → Step
  | [] => .unfinished
  | 0x5c :: [] => .unfinished
  | 0x5c :: byte :: rest =>
    let c := Char.ofNat byte.toNat
    match letterEscapes.lookup c with
    | some code => .found [Char.ofNat code] 2
    | none =>
      if (octalValue? byte).isSome then octalStep (byte :: rest)
      else
        match c with
        | '\n' => .found [] 2
        | 'x' => hexStep 2 rest
        | 'u' => hexStep 4 rest
        | 'U' => hexStep 8 rest
        | 'N' => nameStep rest
        | _ => .found ['\\', c] 2
  | byte :: _ => .found [Char.ofNat byte.toNat] 1

/-- What bytes begin with in a text with escapes by code point alone. -/
def codeEscapedStep : List UInt8 → Step
  | [] => .unfinished
  | 0x5c :: byte :: rest =>
    match Char.ofNat byte.toNat with
    | 'u' => hexStep 4 rest
    | 'U' => hexStep 8 rest
    | c => .found ['\\', c] 2
  | byte :: _ => .found [Char.ofNat byte.toNat] 1

/-- Puts the characters that digits stand for in their places, as far as the digits are well
formed. A character beyond all others becomes a question mark. -/
def placeNumbers (text : List Char) (code start bias : Nat) (first : Bool) :
    (fuel : Nat) → List Char → List Char
  | _, [] => text
  | 0, _ => text
  | fuel + 1, digits =>
    match HostName.readNumber? bias 36 1 0 digits with
    | none => text
    | some (delta, rest) =>
      let count := text.length + 1
      let place := (start + delta) % count
      let code := code + (start + delta) / count
      let code := if 0x10ffff < code then 63 else code
      placeNumbers (text.take place ++ Text.charOfCode code :: text.drop place) code (place + 1)
        (HostName.adaptedBias delta count first) false fuel rest

/-- The text of bytes that write other characters as numbers behind the last dash, or the place of a
byte among the digits that is not ASCII. -/
def decodeNumbered (bytes : List UInt8) : Except (UInt8 × Nat) (List Char) :=
  let digits := (bytes.reverse.takeWhile (· != 0x2d)).reverse
  let basic := bytes.take (bytes.length - digits.length - 1)
  let isAscii (byte : UInt8) : Bool := byte.toNat < 0x80
  match digits.dropWhile isAscii with
  | byte :: _ => .error (byte, (digits.takeWhile isAscii).length)
  | [] =>
    let basic := basic.map fun byte ↦
      if isAscii byte then Char.ofNat byte.toNat else replacement
    .ok (placeNumbers basic 128 0 72 true digits.length
      (digits.map fun byte ↦ Char.ofNat byte.toNat))

end ApiCompiler.Charset
