/-!
# Surrogates in texts

A code point that is half of a surrogate pair is no character, but a text that is read may name one
on its own. Such a half is held as a character of the last private plane, which no text uses
otherwise. It is shown by its own code point, and it cannot be encoded.
-/

namespace ApiCompiler.Text

/-- Whether a code point is half of a surrogate pair. -/
def isSurrogate (code : Nat) : Bool :=
  0xd800 ≤ code && code < 0xe000

/-- The character that holds a code point. -/
def charOfCode (code : Nat) : Char :=
  if isSurrogate code then Char.ofNat (0x100000 + code) else Char.ofNat code

/-- The half of a surrogate pair that a character holds. -/
def surrogate? (c : Char) : Option Nat :=
  if 0x10d800 ≤ c.toNat && c.toNat < 0x10e000 then some (c.toNat - 0x100000) else none

/-- The code point that a character holds. -/
def codeOf (c : Char) : Nat :=
  (surrogate? c).getD c.toNat

/-- The text for a code point that does not even fit in 31 bits. -/
def codePointTooLargeMessage : String :=
  "Python int too large to convert to C int"

end ApiCompiler.Text
