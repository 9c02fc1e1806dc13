import ApiCompiler.Files.Utf8
import ApiCompiler.Text.Literal

/-!
# Percent escapes

A character that an address cannot hold is written as the bytes of its UTF-8 form, each as a percent
sign with two hexadecimal digits. Undoing the escapes replaces bytes that are not text.
-/

namespace ApiCompiler.Url

/-- The value of a hexadecimal digit. -/
def hexDigit? (c : Char) : Option Nat :=
  if c.isDigit then some (c.toNat - 48)
  else if 'a' ≤ c && c ≤ 'f' then some (c.toNat - 87)
  else if 'A' ≤ c && c ≤ 'F' then some (c.toNat - 55)
  else none

/-- The byte that two hexadecimal digits stand for. -/
def hexByte? (high low : Char) : Option UInt8 := do
  return ((← hexDigit? high) * 16 + (← hexDigit? low)).toUInt8

/-- The bytes of a character. -/
def utf8Bytes (c : Char) : List UInt8 :=
  (String.singleton c).toUTF8.toList

/-- The bytes of a text with its escapes undone; a percent sign that begins no escape stays. -/
def unescapedBytes : List Char → List UInt8
  | '%' :: a :: b :: rest =>
    match hexByte? a b with
    | some byte => byte :: unescapedBytes rest
    | none => 37 :: unescapedBytes (a :: b :: rest)
  | c :: rest => utf8Bytes c ++ unescapedBytes rest
  | [] => []
termination_by text => text.length

/-- A text with its escapes undone. -/
def unescape (text : String) : String :=
  String.ofList (Files.decodeLossy (unescapedBytes text.toList))

/-- A hexadecimal digit in upper case. -/
def upperHex (n : Nat) : Char :=
  (Text.hexDigit n).toUpper

/-- The escape of a byte. -/
def escapeByte (byte : UInt8) : List Char :=
  ['%', upperHex (byte.toNat / 16), upperHex (byte.toNat % 16)]

/-- A text in which the characters outside a class are escaped; escapes that it has stay. -/
def escape (isSafe : Char → Bool) : List Char → List Char
  | '%' :: a :: b :: rest =>
    if (hexByte? a b).isSome then '%' :: a :: b :: escape isSafe rest
    else
      (if isSafe '%' then ['%'] else escapeByte 37) ++ escape isSafe (a :: b :: rest)
  | c :: rest =>
    (if isSafe c then [c] else (utf8Bytes c).flatMap escapeByte) ++ escape isSafe rest
  | [] => []
termination_by text => text.length

end ApiCompiler.Url
