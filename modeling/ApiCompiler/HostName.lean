import ApiCompiler.HostName.Neighbour
import ApiCompiler.HostName.Permitted
import ApiCompiler.HostName.Punycode
import ApiCompiler.Text.Composed
import ApiCompiler.Text.Literal
import ApiCompiler.Text.Split

/-!
# Host names

A host name is a row of labels between points. A label holds permitted characters in composed form,
no hyphen at either end and no mark at its beginning; a few characters may stand only beside others,
and a label with letters that are written from right to left follows rules on the direction of its
characters. Labels with characters beyond ASCII have a form in ASCII, in which the name is used.
-/

namespace ApiCompiler.HostName

/-- What is wrong with a label or with a host name. -/
inductive Fault where
  | nameTooLong
  | empty
  | tooLong
  | notComposed
  | hyphensInside
  | hyphenAtEnd
  | markInFront
  | joiner (label : List Char) (place : Nat)
  | neighbour (label : List Char) (place : Nat)
  | notPermitted (label : List Char) (place : Nat)
  | unknownDirection (label : List Char) (place : Nat)
  | firstDirection (label : List Char)
  | directionInRight (place : Nat)
  | mixedNumbers
  | directionInLeft (place : Nat)
  | lastDirection
  | nothingEncoded
  | encodedHyphen
  | encoding
  deriving DecidableEq

/-- The code point at a place of a label, in upper-case hexadecimal digits. -/
def codeAt (label : List Char) (place : Nat) : String :=
  let code := (label[place]?.getD ' ').toNat
  let digits := (Nat.toDigits 16 code).map Char.toUpper
  "U+" ++ String.ofList (List.replicate (4 - digits.length) '0' ++ digits)

/-- The text of a fault. Places are counted from one. -/
def Fault.message : Fault → String
  | nameTooLong => "Domain too long"
  | empty => "Empty Label"
  | tooLong => "Label too long"
  | notComposed => "Label must be in Normalization Form C"
  | hyphensInside => "Label has disallowed hyphens in 3rd and 4th position"
  | hyphenAtEnd => "Label must not start or end with a hyphen"
  | markInFront => "Label begins with an illegal combining character"
  | joiner label place =>
    "Unknown codepoint adjacent to joiner " ++ codeAt label place ++ " at position " ++
      toString (place + 1) ++ " in " ++ String.ofList (Text.literalChars label)
  | neighbour label place =>
    "Codepoint " ++ codeAt label place ++ " not allowed at position " ++ toString (place + 1) ++
      " in " ++ String.ofList (Text.literalChars label)
  | notPermitted label place =>
    "Codepoint " ++ codeAt label place ++ " at position " ++ toString (place + 1) ++ " of " ++
      String.ofList (Text.literalChars label) ++ " not allowed"
  | unknownDirection label place =>
    "Unknown directionality in label " ++ String.ofList (Text.literalChars label) ++
      " at position " ++ toString (place + 1)
  | firstDirection label =>
    "First codepoint in label " ++ String.ofList (Text.literalChars label) ++
      " must be directionality L, R or AL"
  | directionInRight place =>
    "Invalid direction for codepoint at position " ++ toString (place + 1) ++
      " in a right-to-left label"
  | mixedNumbers => "Can not mix numeral types in a right-to-left label"
  | directionInLeft place =>
    "Invalid direction for codepoint at position " ++ toString (place + 1) ++
      " in a left-to-right label"
  | lastDirection => "Label ends with illegal codepoint directionality"
  | nothingEncoded => "Malformed A-label, no Punycode eligible content found"
  | encodedHyphen => "A-label must not end with a hyphen"
  | encoding => "Invalid A-label"

/-! ## Neighbours -/

/-- Whether the first character that joining letters do not pass over is of a kind. -/
def firstJoins (isJoining : Nat → Bool) (text : List Char) : Bool :=
  (text.dropWhile isPassedOver).head?.any fun c ↦ isJoining c.toNat

/-- A mark that a joiner may follow. -/
def isVirama (c : Char) : Bool :=
  Text.combiningClass c == 9

/-- Whether a joiner may stand between the characters before it, last first, and those after it. -/
def joinerFits (joiner : Char) (before after : List Char) : Bool :=
  before.head?.any isVirama ||
    (joiner.toNat == 0x200c &&
      firstJoins (fun c ↦ leftSideRanges.contains c || bothSidesRanges.contains c) before &&
      firstJoins (fun c ↦ rightSideRanges.contains c || bothSidesRanges.contains c) after)

/-- A joiner. -/
def isJoiner (c : Char) : Bool :=
  c.toNat == 0x200c || c.toNat == 0x200d

/-- The Arabic digits of the western and of the eastern form. -/
def isArabicDigit (first : Nat) (c : Char) : Bool :=
  first ≤ c.toNat && c.toNat ≤ first + 9

/-- Whether a sign may stand in a label between the characters before it, last first, and those
after it; nothing for a character that is no such sign. -/
def signFits? (label before : List Char) (sign : Char) (after : List Char) : Option Bool :=
  match sign.toNat with
  | 0xb7 => some (before.head? == some 'l' && after.head? == some 'l')
  | 0x375 => some (after.head?.any fun c ↦ greekRanges.contains c.toNat)
  | 0x5f3 | 0x5f4 => some (before.head?.any fun c ↦ hebrewRanges.contains c.toNat)
  | 0x30fb =>
    some (label.any fun c ↦ c.toNat != 0x30fb &&
      (kanaRanges.contains c.toNat || hanRanges.contains c.toNat))
  | _ =>
    if isArabicDigit 0x660 sign then some (!label.any (isArabicDigit 0x6f0))
    else if isArabicDigit 0x6f0 sign then some (!label.any (isArabicDigit 0x660))
    else none

/-- What is wrong with a character of a label between those before it, last first, and those after
it. -/
def characterFault? (label before : List Char) (c : Char) (after : List Char) : Option Fault :=
  if isPermitted c then none
  else if isJoiner c then
    if joinerFits c before after then none else some (.joiner label before.length)
  else
    match signFits? label before c after with
    | some true => none
    | some false => some (.neighbour label before.length)
    | none => some (.notPermitted label before.length)

/-- What is wrong with the first faulty character of a label behind some characters, last first. -/
def charactersFault? (label before : List Char) : List Char → Option Fault
  | [] => none
  | c :: after =>
    (characterFault? label before c after).or (charactersFault? label (c :: before) after)

/-! ## Directions -/

/-- The direction of a character, taken as unknown marks where it is not known. -/
def direction (c : Char) : Direction :=
  (directionOf? c).getD .neutral

/-- Directions of a text that is written from right to left. -/
def isRightward : Direction → Bool
  | .right | .arabic | .arabicNumber => true
  | _ => false

/-- Whether a label may end with a character of some direction, marks aside. -/
def endsWell (allowed : List Direction) (directions : List Direction) : Bool :=
  (directions.reverse.dropWhile (· == .mark)).head?.any allowed.contains

/-- What is wrong with a label that is written from right to left. The numbers before are given by
their direction. -/
def rightFault? (numbers : Option Direction) (place : Nat) : List Direction → Option Fault
  | [] => none
  | .left :: _ => some (.directionInRight place)
  | direction :: rest =>
    if direction == .number || direction == .arabicNumber then
      if numbers.any (· != direction) then some .mixedNumbers
      else rightFault? (some direction) (place + 1) rest
    else rightFault? numbers (place + 1) rest

/-- What is wrong with the directions of a label that has characters written from right to left. -/
def directionsFault? (label : List Char) (directions : List Direction) : Option Fault :=
  match directions.head? with
  | some .right | some .arabic =>
    (rightFault? none 0 directions).or
      (if endsWell [.right, .arabic, .number, .arabicNumber] directions then none
        else some .lastDirection)
  | some .left =>
    match directions.findIdx? isRightward with
    | some place => some (.directionInLeft place)
    | none => if endsWell [.left, .number] directions then none else some .lastDirection
  | _ => some (.firstDirection label)

/-- What is wrong with a label of permitted characters as to its direction. -/
def directionFault? (label : List Char) : Option Fault :=
  match label.findIdx? fun c ↦ (directionOf? c).isNone with
  | some place => some (.unknownDirection label place)
  | none =>
    let directions := label.map direction
    if directions.any isRightward then directionsFault? label directions else none

/-! ## Labels -/

/-- The most characters of a host name with a point at its end. -/
def maxNameLength : Nat := 254

/-- The most characters of a label in ASCII. -/
def maxLabelLength : Nat := 63

/-- What is wrong with a label. -/
def labelFault? (label : List Char) : Option Fault :=
  if label.isEmpty then some .empty
  else if maxNameLength < label.length then some .tooLong
  else if !Text.isComposed label then some .notComposed
  else if (label.drop 2).take 2 == ['-', '-'] then some .hyphensInside
  else if label.head? == some '-' || label.getLast? == some '-' then some .hyphenAtEnd
  else if label.head?.any Text.isCombining then some .markInFront
  else (charactersFault? label [] label).or (directionFault? label)

/-- A label that keeps the rules. -/
def checked (label : List Char) : Except Fault (List Char) :=
  match labelFault? label with
  | some fault => .error fault
  | none => .ok label

/-- What a label in ASCII begins with when it stands for one with other characters. -/
def encodedMark : List Char := "xn--".toList

/-- The label that a label in ASCII stands for. -/
def decodeLabel (label : List Char) : Except Fault (List Char) :=
  if encodedMark.isPrefixOf label then
    let text := label.drop encodedMark.length
    if text.isEmpty then .error .nothingEncoded
    else if text.getLast? == some '-' then .error .encodedHyphen
    else
      match ofPunycode? text with
      | some label => checked label
      | none => .error .encoding
  else checked label

/-- A label in ASCII. -/
def encodeLabel (label : List Char) : Except Fault (List Char) := do
  let isAscii := label.all fun c ↦ c.toNat < 128
  let _ ← if isAscii then decodeLabel label else checked label
  let ascii := if isAscii then label else encodedMark ++ punycode label
  if maxLabelLength < ascii.length then throw .tooLong
  return ascii

/-! ## Whole names -/

/-- A full stop of any width. -/
def isFullStop (c : Char) : Bool :=
  c == '.' || c == '\u3002' || c == '\uff0e' || c == '\uff61'

/-- The labels of a host name, and whether a point stands at its end. -/
def labels (host : List Char) : List (List Char) × Bool :=
  let labels := Text.splitOn '.' (host.map fun c ↦ if isFullStop c then '.' else c)
  if labels.getLast? == some [] then (labels.dropLast, true) else (labels, false)

/-- A host name whose labels are changed. -/
def mapLabels (f : List Char → Except Fault (List Char)) (host : List Char) :
    Except Fault (List Char) := do
  if maxNameLength < host.length then throw .nameTooLong
  let (labels, isEnded) := labels host
  let labels ← labels.mapM f
  let name := List.intercalate ['.'] (labels ++ if isEnded then [[]] else [])
  return name

/-- A host name in ASCII. -/
def encode (host : List Char) : Except Fault (List Char) := do
  let name ← mapLabels encodeLabel host
  if maxNameLength < name.length + (if name.getLast? == some '.' then 0 else 1) then
    throw .nameTooLong
  return name

/-- The host name that a host name in ASCII stands for. -/
def decode (host : List Char) : Except Fault (List Char) :=
  mapLabels decodeLabel host

end ApiCompiler.HostName
