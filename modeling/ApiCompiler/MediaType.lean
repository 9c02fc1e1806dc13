import ApiCompiler.Text.Base64
import ApiCompiler.Text.Split
import ApiCompiler.Url.Percent

/-!
# Media types

The type of a content is written with parameters after semicolons, one of which may name the
character set. A parameter may be written in several numbered parts, and with escapes behind the
name of their character set and of a language.
-/

namespace ApiCompiler.MediaType

/-- How often a double quote stands in a text without a backslash before it, less those that have
one counted twice. -/
def isOpenQuote (text : List Char) : Bool :=
  let escaped := (text.zip text.tail).filter fun (a, b) ↦ a == '\\' && b == '"'
  (text.count '"' - escaped.length) % 2 == 1

/-- The parts of a text between semicolons outside quotes; `before` is the begun part, last
character first. -/
def splitParts (before : List Char) : List Char → List (List Char)
  | [] => [before.reverse]
  | c :: rest =>
    if c == ';' && (before.isEmpty || !isOpenQuote before.reverse) then
      before.reverse :: splitParts [] rest
    else splitParts (c :: before) rest

/-- A parameter: its name in small letters and its value. -/
def parameter (part : List Char) : List Char × List Char :=
  match Text.cutAt '=' part with
  | (name, some value) => ((Text.strip name).map Char.toLower, Text.strip value)
  | (name, none) => (Text.strip name, [])

/-- A text without backslashes before the characters that they protect. -/
def unescapeQuoted : List Char → List Char
  | '\\' :: c :: rest =>
    if c == '\\' || c == '"' then c :: unescapeQuoted rest
    else '\\' :: unescapeQuoted (c :: rest)
  | c :: rest => c :: unescapeQuoted rest
  | [] => []

/-- A value without the quotes or the angle brackets around it. -/
def unquote (value : List Char) : List Char :=
  if value.length < 2 then value
  else if value.head? == some '"' && value.getLast? == some '"' then
    unescapeQuoted value.tail.dropLast
  else if value.head? == some '<' && value.getLast? == some '>' then value.tail.dropLast
  else value

/-- A part of a parameter: its number if it has one, its value, and whether it has escapes. -/
structure Part where
  number : Option Nat
  value : List Char
  escaped : Bool

/-- The part of the parameter of a name that another name with a star denotes. -/
def part? (name : List Char) (other value : List Char) : Option Part :=
  if (name ++ ['*']).isPrefixOf other then
    let rest := other.drop (name.length + 1)
    let digits := rest.takeWhile Char.isDigit
    let escaped := other.getLast? == some '*'
    let number := digits.foldl (fun n c ↦ 10 * n + (c.toNat - 48)) 0
    if rest.isEmpty then some ⟨none, unquote value, escaped⟩
    else if !digits.isEmpty && (rest.length == digits.length || rest == digits ++ ['*']) then
      some ⟨some number, unquote value, escaped⟩
    else none
  else none

/-- The characters of bytes with escapes undone, one for each byte. -/
def unescapeBytes (value : List Char) : List Char :=
  (Url.unescapedBytes value).map fun byte ↦ Char.ofNat byte.toNat

/-- The value behind the names of a character set and of a language, where it has them. -/
def behindNames (value : List Char) : List Char :=
  match Text.cutAt '\'' value with
  | (_, some rest) =>
    match Text.cutAt '\'' rest with
    | (_, some rest) => rest
    | (_, none) => value
  | (_, none) => value

/-- The value of a parameter in parts. -/
def joinParts (parts : List Part) : List Char :=
  let parts := parts.mergeSort fun a b ↦ a.number.getD 0 ≤ b.number.getD 0
  let value := parts.flatMap fun part ↦
    if part.escaped then unescapeBytes part.value else part.value
  if parts.any Part.escaped then behindNames value else value

/-- The value of a parameter. What stands before the first semicolon may be one, but no part of
one. -/
def find? (name : List Char) (text : List Char) : Option (List Char) :=
  let parameters := (splitParts [] text).map parameter
  match parameters.find? fun (other, _) ↦ other.map Char.toLower == name with
  | some (_, value) => some (unquote value)
  | none =>
    match parameters.tail.filterMap fun (other, value) ↦ part? name other value with
    | [] => none
    | parts => some (joinParts parts)

/-- The name of the character set of a content of a type, in small letters, if it is given in
ASCII. -/
def charset? (text : List Char) : Option (List Char) :=
  ((find? "charset".toList text).filter (·.all fun c ↦ c.toNat < 128)).map (·.map Char.toLower)

end ApiCompiler.MediaType
