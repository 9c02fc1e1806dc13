import ApiCompiler.Text.Literal

/-!
# Texts that cannot be encoded

ASCII has bytes for its own characters alone, and UTF-8 for all but halves of surrogate pairs. The
first run of characters that have no bytes is reported.
-/

namespace ApiCompiler.Text

/-- An encoding of texts. -/
inductive Encoding where
  | ascii
  | utf8
  deriving DecidableEq

namespace Encoding

/-- The name of an encoding. -/
def name : Encoding → String
  | ascii => "ascii"
  | utf8 => "utf-8"

/-- What is wrong with characters that have no bytes. -/
def reason : Encoding → String
  | ascii => "ordinal not in range(128)"
  | utf8 => "surrogates not allowed"

/-- Whether a character has bytes. -/
def holds : Encoding → Char → Bool
  | ascii, c => c.toNat < 128
  | utf8, c => (surrogate? c).isNone

end Encoding

/-- A text that has no bytes. -/
structure EncodingFault where
  /-- The encoding. -/
  encoding : Encoding
  /-- The text. -/
  text : String
  /-- The first place of a character that has no bytes. -/
  start : Nat
  deriving DecidableEq

namespace EncodingFault

/-- The run of characters that have no bytes. -/
def run (fault : EncodingFault) : List Char :=
  (fault.text.toList.drop fault.start).takeWhile (!fault.encoding.holds ·)

/-- The place after the run. -/
def stop (fault : EncodingFault) : Nat :=
  fault.start + fault.run.length

/-- The text of a fault. -/
def message (fault : EncodingFault) : String :=
  let place :=
    match fault.run with
    | [c] =>
      "character '" ++ String.ofList (codeEscape (codeOf c)) ++ "' in position " ++
        toString fault.start
    | _ => "characters in position " ++ toString fault.start ++ "-" ++ toString (fault.stop - 1)
  literal fault.encoding.name ++ " codec can't encode " ++ place ++ ": " ++ fault.encoding.reason

end EncodingFault

/-- Why a text has no bytes. -/
def encodingFault? (encoding : Encoding) (text : String) : Option EncodingFault :=
  (text.toList.findIdx? (!encoding.holds ·)).map fun start ↦ ⟨encoding, text, start⟩

/-- Whether half of a surrogate pair stands for a single byte in a file name. -/
def isNameByte (code : Nat) : Bool :=
  0xdc80 ≤ code && code ≤ 0xdcff

/-- Why a file name has no bytes. In a file name some halves of surrogate pairs have them. -/
def nameFault? (name : String) : Option EncodingFault :=
  (name.toList.findIdx? fun c ↦ !(surrogate? c).all isNameByte).map fun start ↦
    ⟨.utf8, name, start⟩

/-- The number of bytes of a file name. -/
def nameSize (name : String) : Nat :=
  name.toList.foldl (fun size c ↦ size + if (surrogate? c).isSome then 1 else c.utf8Size) 0

end ApiCompiler.Text
