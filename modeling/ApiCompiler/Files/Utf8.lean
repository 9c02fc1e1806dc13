import ApiCompiler.Text.Literal

/-!
# Text from bytes

Strict reading of UTF-8. The first sequence that is not well formed is reported with its extent and
with what is wrong about it: a byte that begins no sequence, a byte that does not continue one, or
the end of the input inside one.
-/

namespace ApiCompiler.Files

/-- Bytes that are not text: where they stand and why. -/
structure DecodeFault where
  /-- The first byte that is not understood. -/
  start : Nat
  /-- The byte after the last one. -/
  stop : Nat
  /-- What is wrong. -/
  reason : String
  deriving DecidableEq

/-- A byte that continues a sequence. -/
def isContinuation (b : UInt8) : Bool :=
  0x80 ≤ b.toNat && b.toNat < 0xc0

/-- The number of bytes after the first one of a sequence, and the range of the second one. -/
def sequenceShape? (b : UInt8) : Option (Nat × Nat × Nat) :=
  let n := b.toNat
  if 0xc2 ≤ n && n ≤ 0xdf then some (1, 0x80, 0xbf)
  else if n == 0xe0 then some (2, 0xa0, 0xbf)
  else if n == 0xed then some (2, 0x80, 0x9f)
  else if 0xe1 ≤ n && n ≤ 0xef then some (2, 0x80, 0xbf)
  else if n == 0xf0 then some (3, 0x90, 0xbf)
  else if n == 0xf4 then some (3, 0x80, 0x8f)
  else if 0xf1 ≤ n && n ≤ 0xf3 then some (3, 0x80, 0xbf)
  else none

/-- The bits of a first byte that belong to the code point. -/
def leadBits (b : UInt8) : Nat :=
  let n := b.toNat
  if n < 0xe0 then n % 0x20 else if n < 0xf0 then n % 0x10 else n % 8

/-- The continuation bytes of a sequence: the code point, or how many of them are there and whether
the input ended. -/
def readContinuation (low high code : Nat) : (count : Nat) → List UInt8 →
    Except (Nat × Bool) (Nat × List UInt8)
  | 0, bytes => .ok (code, bytes)
  | _ + 1, [] => .error (0, true)
  | count + 1, b :: rest =>
    if low ≤ b.toNat && b.toNat ≤ high then
      match readContinuation 0x80 0xbf (code * 64 + b.toNat % 64) count rest with
      | .ok found => .ok found
      | .error (n, ended) => .error (n + 1, ended)
    else .error (0, false)

/-- The characters of bytes that begin at a position. -/
def decodeFrom : (fuel position : Nat) → List UInt8 → Except DecodeFault (List Char)
  | 0, _, _ => .ok []
  | _, _, [] => .ok []
  | fuel + 1, position, b :: rest =>
    if b.toNat < 0x80 then (decodeFrom fuel (position + 1) rest).map (Char.ofNat b.toNat :: ·)
    else
      match sequenceShape? b with
      | none => .error ⟨position, position + 1, "invalid start byte"⟩
      | some (count, low, high) =>
        match readContinuation low high (leadBits b) count rest with
        | .ok (code, rest) =>
          (decodeFrom fuel (position + count + 1) rest).map (Char.ofNat code :: ·)
        | .error (n, true) => .error ⟨position, position + n + 1, "unexpected end of data"⟩
        | .error (n, false) => .error ⟨position, position + n + 1, "invalid continuation byte"⟩

/-- The characters of bytes. -/
def decode (bytes : List UInt8) : Except DecodeFault (List Char) :=
  decodeFrom bytes.length 0 bytes

/-- The characters of bytes, with other characters for each sequence that is not text. -/
def decodeFromOr (instead : List UInt8 → List Char) : (fuel : Nat) → List UInt8 → List Char
  | 0, _ => []
  | fuel + 1, bytes =>
    match decode bytes with
    | .ok chars => chars
    | .error fault =>
      (decode (bytes.take fault.start)).toOption.getD [] ++
        instead ((bytes.take fault.stop).drop fault.start) ++
          decodeFromOr instead fuel (bytes.drop fault.stop)

/-- The characters of bytes, with other characters for each sequence that is not text. -/
def decodeOr (instead : List UInt8 → List Char) (bytes : List UInt8) : List Char :=
  decodeFromOr instead (bytes.length + 1) bytes

/-- The characters of bytes, each sequence that is not text being replaced. -/
def decodeLossy : List UInt8 → List Char :=
  decodeOr fun _ ↦ ['\ufffd']

/-- The characters of bytes, each byte that is not text being escaped. -/
def decodeEscaped : List UInt8 → List Char :=
  decodeOr fun bytes ↦ bytes.flatMap fun byte ↦ Text.codeEscape byte.toNat

end ApiCompiler.Files
