import ApiCompiler.Named
import ApiCompiler.Text.Literal

/-!
# Texts with placeholders

A placeholder begins with a percent sign: it may name a value in parentheses, then come flags, a
width, a precision and a size, and last the letter of a notation. Two percent signs stand for one.
A placeholder without a name takes what is at hand: all values together at first, and nothing once
they or a named value have been taken.

A value is written in a field by a letter for its notation and a layout: a width, a precision and
flags. Texts are cut at the precision. The truth value that is false counts as zero in the notations
of numbers, where zeros may fill the field between a sign and the digits.
-/

namespace ApiCompiler.Text

/-! ## Values in fields -/

/-- A value that a field can show. -/
inductive Shown where
  | nothing
  | no
  | text (text : String)
  | other (text literal : String)
  deriving DecidableEq

namespace Shown

/-- A value as text. -/
def chars : Shown → List Char
  | .nothing => "None".toList
  | .no => "False".toList
  | .text chars => chars.toList
  | .other chars _ => chars.toList

/-- A value as a literal. -/
def literal : Shown → List Char
  | .text chars => literalChars chars.toList
  | .other _ literal => literal.toList
  | value => value.chars

/-- A value as a literal in ASCII alone. -/
def asciiLiteral (value : Shown) : List Char :=
  value.literal.flatMap fun c ↦ if c.toNat < 128 then [c] else codeEscape c.toNat

end Shown

/-- How a field is laid out. -/
structure Layout where
  /-- Whether spaces follow the value instead of going before it. -/
  left : Bool := false
  /-- Whether a positive number has a sign. -/
  plus : Bool := false
  /-- Whether a positive number has a space for its sign. -/
  blank : Bool := false
  /-- Whether the base or the point of a number is always written. -/
  alternate : Bool := false
  /-- Whether zeros fill the field of a number. -/
  zero : Bool := false
  /-- The least width. -/
  width : Nat := 0
  /-- The precision, if one is given. -/
  precision : Option Nat := none
  deriving DecidableEq

namespace Layout

/-- A layout with what a flag asks for. -/
def withFlag (layout : Layout) (flag : Char) : Layout :=
  match flag with
  | '-' => { layout with left := true }
  | '+' => { layout with plus := true }
  | ' ' => { layout with blank := true }
  | '#' => { layout with alternate := true }
  | '0' => { layout with zero := true }
  | _ => layout

/-- Some characters with spaces up to the width. -/
def pad (layout : Layout) (text : List Char) : List Char :=
  let spaces := List.replicate (layout.width - text.length) ' '
  if layout.left then text ++ spaces else spaces ++ text

/-- A text in its field. -/
def text (layout : Layout) (text : List Char) : List Char :=
  layout.pad (layout.precision.elim text text.take)

/-- The sign of a number that is not negative. -/
def sign (layout : Layout) : List Char :=
  if layout.plus then ['+'] else if layout.blank then [' '] else []

/-- A number in its field, with what stands before its digits. -/
def number (layout : Layout) (mark digits : List Char) : List Char :=
  let head := layout.sign ++ mark
  if layout.zero && !layout.left then
    head ++ List.replicate (layout.width - (head.length + digits.length)) '0' ++ digits
  else layout.pad (head ++ digits)

/-- The digits of zero as a whole number. -/
def wholeZero (layout : Layout) : List Char :=
  List.replicate (max 1 (layout.precision.getD 1)) '0'

/-- The digits of zero with a number of places behind the point. -/
def pointedZero (layout : Layout) (places : Nat) : List Char :=
  '0' :: ((if places != 0 || layout.alternate then ['.'] else []) ++ List.replicate places '0')

/-- Zero in the notation of a letter, with what stands before its digits, if it is a notation of
numbers. -/
def zeroIn? (layout : Layout) (letter : Char) : Option (List Char × List Char) :=
  let places := layout.precision.getD 6
  match letter with
  | 'd' | 'i' | 'u' => some ([], layout.wholeZero)
  | 'o' | 'x' | 'X' => some (if layout.alternate then ['0', letter] else [], layout.wholeZero)
  | 'f' | 'F' => some ([], layout.pointedZero places)
  | 'e' => some ([], layout.pointedZero places ++ "e+00".toList)
  | 'E' => some ([], layout.pointedZero places ++ "E+00".toList)
  | 'g' | 'G' => some ([], if layout.alternate then layout.pointedZero (places - 1) else ['0'])
  | _ => none

end Layout

/-! ## Placeholders -/

/-- What is wrong with a placeholder. -/
inductive PlaceholderFault where
  | incomplete
  | unknownLetter
  | amountTooBig
  | wrongValue
  | tooLong
  | missing (name : String)
  deriving DecidableEq

/-- The name in parentheses, and the text after them; `depth` parentheses are open inside. -/
def placeholderName? : (depth : Nat) → List Char → Option (List Char × List Char)
  | _, [] => none
  | 0, ')' :: rest => some ([], rest)
  | depth + 1, ')' :: rest =>
    (placeholderName? depth rest).map fun (name, rest) ↦ (')' :: name, rest)
  | depth, c :: rest =>
    (placeholderName? (if c == '(' then depth + 1 else depth) rest).map fun (name, rest) ↦
      (c :: name, rest)

/-- What is at hand after the name of a placeholder, if it has one, and the text after the name. -/
def placeholderValue (values : Named Shown) (atHand : Option Shown) (text : List Char) :
    Except PlaceholderFault (Option Shown × List Char) :=
  match text with
  | '(' :: rest =>
    match placeholderName? 0 rest with
    | none => .error .incomplete
    | some (name, rest) =>
      match values.find? (String.ofList name) with
      | some value => .ok (some value, rest)
      | none => .error (.missing (String.ofList name))
  | text => .ok (atHand, text)

/-- A width or a precision of at most some amount, what is at hand after it, and the text after it.
A star takes the amount from the value at hand. -/
def amount (limit : Nat) (atHand : Option Shown) (text : List Char) :
    Except PlaceholderFault (Option Nat × Option Shown × List Char) :=
  match text with
  | '*' :: rest => if atHand == some .no then .ok (some 0, none, rest) else .error .wrongValue
  | text =>
    let digits := text.takeWhile Char.isDigit
    let value := digits.foldl (fun n c ↦ 10 * n + (c.toNat - '0'.toNat)) 0
    if digits.isEmpty then .ok (none, atHand, text)
    else if limit < value then .error .amountTooBig
    else .ok (some value, atHand, text.drop digits.length)

/-- The layout of a placeholder, what is at hand after it, and the text after it. -/
def placeholderLayout (atHand : Option Shown) (text : List Char) :
    Except PlaceholderFault (Layout × Option Shown × List Char) := do
  let isFlag := "-+ #0".toList.contains
  let layout := (text.takeWhile isFlag).foldl Layout.withFlag {}
  let (width, atHand, text) ← amount 0x7fffffffffffffff atHand (text.dropWhile isFlag)
  let layout := { layout with width := width.getD 0 }
  match text with
  | '.' :: rest =>
    let (precision, atHand, text) ← amount 0x7fffffff atHand rest
    return ({ layout with precision := some (precision.getD 0) }, atHand, text)
  | text => return (layout, atHand, text)

/-- The text after a size. -/
def skipSize : List Char → List Char
  | [] => []
  | c :: rest => if c == 'h' || c == 'l' || c == 'L' then rest else c :: rest

/-- The longest field that is written. -/
def longestField : Nat := 0x10000000

/-- A value in the notation of a letter. -/
def inNotation (layout : Layout) (value : Shown) (letter : Char) :
    Except PlaceholderFault (List Char) :=
  if longestField < layout.width then .error .tooLong
  else
    match letter with
    | 's' => .ok (layout.text value.chars)
    | 'r' => .ok (layout.text value.literal)
    | 'a' => .ok (layout.text value.asciiLiteral)
    | 'c' =>
      match value with
      | .no => .ok (layout.pad [Char.ofNat 0])
      | .text text => if text.length == 1 then .ok (layout.pad text.toList) else .error .wrongValue
      | _ => .error .wrongValue
    | letter =>
      match layout.zeroIn? letter with
      | none => .error .unknownLetter
      | some (mark, digits) =>
        if value == .no then .ok (layout.number mark digits) else .error .wrongValue

/-- What a placeholder stands for, what is at hand after it, and the text after it. -/
def placeholder (values : Named Shown) (atHand : Option Shown) (text : List Char) :
    Except PlaceholderFault (List Char × Option Shown × List Char) := do
  let (atHand, rest) ← placeholderValue values atHand text
  let (layout, atHand, rest) ← placeholderLayout atHand rest
  match skipSize rest, atHand with
  | [], _ => throw .incomplete
  | _ :: _, none => throw .wrongValue
  | letter :: rest, some value => return (← inNotation layout value letter, none, rest)

/-- A text of at most some number of characters with its placeholders filled. -/
def fillFrom (values : Named Shown) (atHand : Option Shown) : (fuel : Nat) → List Char →
    Except PlaceholderFault (List Char)
  | 0, _ => .ok []
  | _ + 1, [] => .ok []
  | fuel + 1, '%' :: '%' :: rest => do
    return '%' :: (← fillFrom values atHand fuel rest)
  | fuel + 1, '%' :: rest => do
    let (filled, atHand, rest) ← placeholder values atHand rest
    return filled ++ (← fillFrom values atHand fuel rest)
  | fuel + 1, c :: rest => do
    return c :: (← fillFrom values atHand fuel rest)

/-- All values together, each behind its name. -/
def allValues (values : Named Shown) : Shown :=
  let entries := values.map fun (name, value) ↦ literal name ++ ": " ++ String.ofList value.literal
  let text := "\x7b" ++ ", ".intercalate entries ++ "\x7d"
  .other text text

/-- A text with its placeholders filled from named values. -/
def fillPlaceholders (values : Named Shown) (text : List Char) :
    Except PlaceholderFault (List Char) :=
  fillFrom values (some (allValues values)) text.length text

end ApiCompiler.Text
