import ApiCompiler.Text.Printable
import ApiCompiler.Text.Surrogate

/-!
# Quoted literals

A string is written as a literal of the generated language between single quotes, or between double
quotes when it holds single quotes and no double ones. Line ends, tabs and backslashes have short
escapes, and every other character that is not printable is written by its code point.

A literal in ASCII stands between double quotes. All characters beyond ASCII are escaped by their
UTF-16 code units, and so are angle brackets, ampersands and single quotes, so that it can stand in
any surroundings. A documentation string stands between three double quotes on either side;
backslashes and double quotes are escaped, so its text can neither end the literal nor leave an
escape open at its end.
-/

namespace ApiCompiler.Text

/-- The lower-case hexadecimal digit of a number below sixteen. -/
def hexDigit (n : Nat) : Char :=
  Nat.digitChar n

/-- The last `width` hexadecimal digits of a number. -/
def hexFixed : (width : Nat) → Nat → List Char
  | 0, _ => []
  | width + 1, n => hexFixed width (n / 16) ++ [hexDigit (n % 16)]

/-- A code point escape of the shortest of the three widths that can hold it. -/
def codeEscape (n : Nat) : List Char :=
  if n < 0x100 then '\\' :: 'x' :: hexFixed 2 n
  else if n < 0x10000 then '\\' :: 'u' :: hexFixed 4 n
  else '\\' :: 'U' :: hexFixed 8 n

/-- One character inside a literal with the given quote. -/
def literalChar (quote c : Char) : List Char :=
  if c == quote || c == '\\' then ['\\', c]
  else if c == '\n' then ['\\', 'n']
  else if c == '\r' then ['\\', 'r']
  else if c == '\t' then ['\\', 't']
  else if isPrintable c then [c]
  else codeEscape (codeOf c)

/-- Double quotes exactly when there are single quotes and no double ones inside. -/
def literalQuote (text : List Char) : Char :=
  if text.contains '\'' && !text.contains '"' then '"' else '\''

/-- The literal of a text, as characters. -/
def literalChars (text : List Char) : List Char :=
  let quote := literalQuote text
  quote :: text.flatMap (literalChar quote) ++ [quote]

/-- The literal of a text. -/
def literal (text : String) : String :=
  String.ofList (literalChars text.toList)

/-! ## Literals in ASCII -/

/-- The escape of a UTF-16 code unit. -/
def unitEscape (unit : Nat) : List Char :=
  '\\' :: 'u' :: hexFixed 4 unit

/-- The escape of a code point by one or two code units. -/
def pointEscape (code : Nat) : List Char :=
  if code < 0x10000 then unitEscape code
  else unitEscape (0xd800 + (code - 0x10000) / 0x400) ++
    unitEscape (0xdc00 + (code - 0x10000) % 0x400)

/-- Characters that are escaped only to be safe in any surroundings. -/
def isMarkup (c : Char) : Bool :=
  c == '<' || c == '>' || c == '&' || c == '\''

/-- One character of a quoted literal. -/
def quotedChar (c : Char) : List Char :=
  if c == '"' then ['\\', '"']
  else if c == '\\' then ['\\', '\\']
  else if c == '\n' then ['\\', 'n']
  else if c == '\r' then ['\\', 'r']
  else if c == '\t' then ['\\', 't']
  else if c.toNat == 8 then ['\\', 'b']
  else if c.toNat == 12 then ['\\', 'f']
  else if isMarkup c || c.toNat < 32 || 126 < c.toNat then pointEscape (codeOf c)
  else [c]

/-- The quoted literal of a text, as characters. -/
def quotedAsciiChars (text : List Char) : List Char :=
  '"' :: text.flatMap quotedChar ++ ['"']

/-- The quoted literal of a text. -/
def quotedAscii (text : String) : String :=
  String.ofList (quotedAsciiChars text.toList)

/-! ## Documentation strings -/

/-- One character of a documentation string. -/
def docstringChar (c : Char) : List Char :=
  if c = '\\' then ['\\', '\\'] else if c = '"' then ['\\', '"'] else [c]

/-- The content of a documentation string, as characters. -/
def docstringChars (text : List Char) : List Char :=
  text.flatMap docstringChar

/-- The content of a documentation string. -/
def docstring (text : String) : String :=
  String.ofList (docstringChars text.toList)

end ApiCompiler.Text
