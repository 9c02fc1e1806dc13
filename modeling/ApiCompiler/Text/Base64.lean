/-!
# Base64

Reading of bytes that are written with four characters for three. Characters outside the alphabet
are passed over, and the reading ends with the padding that completes a group of four.
-/

namespace ApiCompiler.Text

/-- The number that a character of the alphabet stands for. -/
def base64Value? (c : Char) : Option Nat :=
  if c.isUpper then some (c.toNat - 65)
  else if c.isLower then some (c.toNat - 71)
  else if c.isDigit then some (c.toNat + 4)
  else if c == '+' then some 62
  else if c == '/' then some 63
  else none

/-- The bytes of the characters from a place inside a group of four on: `place` characters of the
group have been read, `pending` holds their bits that belong to no byte yet, and `pads` counts the
padding read since. Nothing when the last group is not complete. -/
def base64From (place pending pads : Nat) : List Char → Option (List UInt8)
  | [] => if place = 0 then some [] else none
  | c :: rest =>
    if c == '=' then
      if 2 ≤ place then
        if 4 ≤ place + pads + 1 then some [] else base64From place pending (pads + 1) rest
      else base64From place pending pads rest
    else
      match base64Value? c with
      | none => base64From place pending pads rest
      | some n =>
        match place with
        | 0 => base64From 1 n 0 rest
        | 1 => (base64From 2 (n % 16) 0 rest).map ((pending * 4 + n / 16).toUInt8 :: ·)
        | 2 => (base64From 3 (n % 4) 0 rest).map ((pending * 16 + n / 4).toUInt8 :: ·)
        | _ => (base64From 0 0 0 rest).map ((pending * 64 + n).toUInt8 :: ·)

/-- The bytes that a text stands for. -/
def base64? (text : List Char) : Option (List UInt8) :=
  base64From 0 0 0 text

end ApiCompiler.Text
