import ApiCompiler.CharacterName.Chart0000
import ApiCompiler.CharacterName.Chart13000
import ApiCompiler.CharacterName.Chart1C00
import ApiCompiler.CharacterName.Chart1D400
import ApiCompiler.CharacterName.Chart2800
import ApiCompiler.CharacterName.ChartFC00
import ApiCompiler.Text.Ranges
import ApiCompiler.Text.Split

/-!
# Names of characters

The character that a standard name stands for. Most names are written down in charts. The names of
Hangul syllables are put together from the sounds of their letters, those of ideographs hold the
code point, and some families of characters are numbered. Besides there are names for control
characters, abbreviations, and corrections of names, written as in the charts.
-/

namespace ApiCompiler.CharacterName

/-! ## Other names -/

/-- The other names. -/
def aliases : List String :=
  ["0:0NULL,0:0NUL,0START OF HEADING,1:0SOH,0START OF TEXT,2:0STX,0END OF TEXT,3:0ETX",
   "0END OF TRANSMISSION,4:0EOT,0ENQUIRY,5:0ENQ,0ACKNOWLEDGE,6:0ACK,0ALERT,7:0BEL,0BACKSPACE",
   "8:0BS,0CHARACTER TABULATION,9:0HORIZONTAL TABULATION,9:0HT,9:0TAB,0LINE FEED,A:0NEW LINE",
   "A:0END OF LINE,A:0LF,A:0NL,A:0EOL,0LINE TABULATION,B:0VERTICAL TABULATION,B:0VT,0FORM FEED",
   "C:0FF,0CARRIAGE RETURN,D:0CR,0SHIFT OUT,E:0LOCKING-SHIFT ONE,E:0SO,0SHIFT IN",
   "F:0LOCKING-SHIFT ZERO,F:0SI,0DATA LINK ESCAPE,10:0DLE,0DEVICE CONTROL ONE,11:0DC1",
   "0DEVICE CONTROL TWO,12:0DC2,0DEVICE CONTROL THREE,13:0DC3,0DEVICE CONTROL FOUR,14:0DC4",
   "0NEGATIVE ACKNOWLEDGE,15:0NAK,0SYNCHRONOUS IDLE,16:0SYN,0END OF TRANSMISSION BLOCK,17:0ETB",
   "0CANCEL,18:0CAN,0END OF MEDIUM,19:0EOM,0SUBSTITUTE,1A:0SUB,0ESCAPE,1B:0ESC",
   "0INFORMATION SEPARATOR FOUR,1C:0FILE SEPARATOR,1C:0FS,0INFORMATION SEPARATOR THREE",
   "1D:0GROUP SEPARATOR,1D:0GS,0INFORMATION SEPARATOR TWO,1E:0RECORD SEPARATOR,1E:0RS",
   "0INFORMATION SEPARATOR ONE,1F:0UNIT SEPARATOR,1F:0US,0SP,7F:0DELETE,7F:0DEL",
   "0PADDING CHARACTER,80:0PAD,0HIGH OCTET PRESET,81:0HOP,0BREAK PERMITTED HERE,82:0BPH",
   "0NO BREAK HERE,83:0NBH,0INDEX,84:0IND,0NEXT LINE,85:0NEL,0START OF SELECTED AREA,86:0SSA",
   "0END OF SELECTED AREA,87:0ESA,0CHARACTER TABULATION SET,88:0HORIZONTAL TABULATION SET,88:0HTS",
   "0CHARACTER TABULATION WITH JUSTIFICATION,89:0HORIZONTAL TABULATION WITH JUSTIFICATION,89:0HTJ",
   "0LINE TABULATION SET,8A:0VERTICAL TABULATION SET,8A:0VTS,0PARTIAL LINE FORWARD,8B:2DOWN",
   "8B:0PLD,0PARTIAL LINE BACKWARD,8C:2UP,8C:0PLU,0REVERSE LINE FEED,8D:1INDEX,8D:0RI",
   "0SINGLE SHIFT TWO,8E:0SINGLE-SHIFT-2,8E:0SS2,0SINGLE SHIFT THREE,8F:0SINGLE-SHIFT-3,8F:0SS3",
   "0DEVICE CONTROL STRING,90:0DCS,0PRIVATE USE ONE,91:1USE-1,91:0PU1,0PRIVATE USE TWO,92:1USE-2",
   "92:0PU2,0SET TRANSMIT STATE,93:0STS,0CANCEL CHARACTER,94:0CCH,0MESSAGE WAITING,95:0MW",
   "0START OF GUARDED AREA,96:2PROTECTED AREA,96:0SPA,0END OF GUARDED AREA,97:2PROTECTED AREA",
   "97:0EPA,0START OF STRING,98:0SOS,0SINGLE GRAPHIC CHARACTER INTRODUCER,99:0SGC",
   "0SINGLE CHARACTER INTRODUCER,9A:0SCI,0CONTROL SEQUENCE INTRODUCER,9B:0CSI,0STRING TERMINATOR",
   "9C:0ST,0OPERATING SYSTEM COMMAND,9D:0OSC,0PRIVACY MESSAGE,9E:0PM,0APPLICATION PROGRAM COMMAND",
   "9F:0APC,0NBSP,AD:0SHY,1A2:0LATIN CAPITAL LETTER GHA,1SMALL LETTER GHA,34F:0CGJ,61C:0ALM",
   "709:0SYRIAC SUBLINEAR COLON SKEWED LEFT,CDE:0KANNADA LETTER LLLA,E9D:0LAO LETTER FO FON",
   "E9F:3FAY,EA3:2RO,EA5:2LO,FD0:0TIBETAN MARK BKA- SHOG GI MGO RGYAN",
   "11EC:0HANGUL JONGSEONG YESIEUNG-KIYEOK,2YESIEUNG-SSANGKIYEOK,2SSANGYESIEUNG,2YESIEUNG-KHIEUKH",
   "180B:0FVS1,0FVS2,0FVS3,0MVS,0FVS4,200B:0ZWSP,0ZWNJ,0ZWJ,0LRM,0RLM,202A:0LRE,0RLE,0PDF,0LRO",
   "0RLO,0NNBSP,205F:0MMSP,0WJ,2066:0LRI,0RLI,0FSI,0PDI,2118:0WEIERSTRASS ELLIPTIC FUNCTION",
   "2448:0MICR ON US SYMBOL,1DASH SYMBOL",
   "2B7A:0LEFTWARDS TRIANGLE-HEADED ARROW WITH DOUBLE VERTICAL STROKE",
   "2B7C:0RIGHTWARDS TRIANGLE-HEADED ARROW WITH DOUBLE VERTICAL STROKE",
   "A015:0YI SYLLABLE ITERATION MARK,AA6E:0MYANMAR LETTER KHAMTI LLA",
   "FE18:0PRESENTATION FORM FOR VERTICAL RIGHT WHITE LENTICULAR BRACKET,FEFF:0BYTE ORDER MARK",
   "FEFF:0BOM,FEFF:0ZWNBSP,122D4:0CUNEIFORM SIGN NU11 TENU,3OVER NU11 BUR OVER BUR",
   "16E56:0MEDEFAIDRIN CAPITAL LETTER H,3NG,16E76:1SMALL LETTER H,3NG",
   "1B001:0HENTAIGANA LETTER E-1,1D0C5:0BYZANTINE MUSICAL SYMBOL FTHORA SKLIRON CHROMA VASIS"]

/-! ## Names -/

open Text (splitOn)

/-- A place in a chart: a code point and the words of its name. -/
structure Place where
  /-- The code point. -/
  code : Nat := 0
  /-- The words. -/
  words : List (List Char) := []
  deriving DecidableEq

/-- The value of a digit in base sixteen, with capital letters. -/
def hexValue? (c : Char) : Option Nat :=
  if c.isDigit then some (c.toNat - 48)
  else if 'A' ≤ c && c ≤ 'F' then some (c.toNat - 55)
  else none

/-- The number that digits in base sixteen stand for. -/
def ofHex? (digits : List Char) : Option Nat :=
  digits.foldlM (fun n c ↦ (hexValue? c).map (n * 16 + ·)) 0

/-- The place after a given one that an entry of a chart describes. -/
def Place.next (before : Place) (entry : List Char) : Place :=
  let (code, name) :=
    match Text.cutAt ':' entry with
    | (code, some name) => ((ofHex? code).getD 0, name)
    | (name, none) => (before.code + 1, name)
  match name with
  | [] => ⟨code, []⟩
  | shared :: rest => ⟨code, before.words.take (shared.toNat - 48) ++ splitOn ' ' rest⟩

/-- The code point that has a name in a chart. -/
def codeInChart? (chart : List String) (name : List (List Char)) : Option Nat :=
  let step (found : Place × Option Nat) (entry : List Char) : Place × Option Nat :=
    let place := found.1.next entry
    (place, if found.2.isNone && place.words == name then some place.code else found.2)
  (chart.foldl (fun found line ↦ (splitOn ',' line.toList).foldl step found) ({}, none)).2

/-- The sounds with which a Hangul syllable can begin. -/
def leadSounds : List String :=
  ["G", "GG", "N", "D", "DD", "R", "M", "B", "BB", "S", "SS", "", "J", "JJ", "C", "K", "T", "P",
   "H"]

/-- The sounds in the middle of a Hangul syllable. -/
def vowelSounds : List String :=
  ["A", "AE", "YA", "YAE", "EO", "E", "YEO", "YE", "O", "WA", "WAE", "OE", "YO", "U", "WEO", "WE",
   "WI", "YU", "EU", "YI", "I"]

/-- The sounds with which a Hangul syllable can end. -/
def tailSounds : List String :=
  ["", "G", "GG", "GS", "N", "NJ", "NH", "D", "L", "LG", "LM", "LB", "LS", "LT", "LP", "LH", "M",
   "B", "BS", "S", "SS", "NG", "J", "C", "K", "T", "P", "H"]

/-- The place of the longest sound that a text begins with, and the text after it. -/
def longestSound? (sounds : List String) (text : List Char) : Option (Nat × List Char) :=
  let fitting := sounds.zipIdx.filter fun sound ↦ sound.1.toList.isPrefixOf text
  let best := fitting.foldl (fun (best : Option (String × Nat)) sound ↦
    match best with
    | none => some sound
    | some other => if other.1.length < sound.1.length then some sound else best) none
  best.map fun sound ↦ (sound.2, text.drop sound.1.length)

/-- The Hangul syllable of some sounds. -/
def syllable? (sounds : List Char) : Option Nat := do
  let (lead, rest) ← longestSound? leadSounds sounds
  let (vowel, rest) ← longestSound? vowelSounds rest
  let (tail, rest) ← longestSound? tailSounds rest
  if rest.isEmpty then some (0xac00 + (lead * 21 + vowel) * 28 + tail) else none

/-- The ranges of the unified ideographs. -/
def ideographRanges : Text.Ranges :=
  [(0x3400, 0x4dbf), (0x4e00, 0x9fff), (0x20000, 0x2a6df), (0x2a700, 0x2b738),
   (0x2b740, 0x2b81d), (0x2b820, 0x2cea1), (0x2ceb0, 0x2ebe0), (0x30000, 0x3134a)]

/-- The unified ideograph with a code point of four or five digits. -/
def ideograph? (digits : List Char) : Option Nat := do
  let code ← ofHex? digits
  let isFull := digits.length == 4 || digits.length == 5
  if isFull && ideographRanges.contains code then some code else none

/-- How the characters of a family are numbered. -/
inductive Numbering where
  | byCode
  | counted (first width : Nat)

/-- A family of characters whose names are the same but for a number at the end. -/
structure Family where
  /-- What the names begin with. -/
  stem : String
  /-- The first and the last code point. -/
  range : Nat × Nat
  /-- How they are numbered. -/
  numbering : Numbering

/-- The numbered families. -/
def families : List Family :=
  [⟨"CJK COMPATIBILITY IDEOGRAPH-", (0xf900, 0xfa6d), .byCode⟩,
   ⟨"CJK COMPATIBILITY IDEOGRAPH-", (0xfa70, 0xfad9), .byCode⟩,
   ⟨"CJK COMPATIBILITY IDEOGRAPH-", (0x2f800, 0x2fa1d), .byCode⟩,
   ⟨"KHITAN SMALL SCRIPT CHARACTER-", (0x18b00, 0x18cd5), .byCode⟩,
   ⟨"NUSHU CHARACTER-", (0x1b170, 0x1b2fb), .byCode⟩,
   ⟨"TANGUT COMPONENT-", (0x18800, 0x18aff), .counted 1 3⟩,
   ⟨"VARIATION SELECTOR-", (0xfe00, 0xfe0f), .counted 1 1⟩,
   ⟨"VARIATION SELECTOR-", (0xe0100, 0xe01ef), .counted 17 1⟩,
   ⟨"VS", (0xfe00, 0xfe0f), .counted 1 1⟩,
   ⟨"VS", (0xe0100, 0xe01ef), .counted 17 1⟩]

/-- A number in a base, written in capital letters with at least some digits. -/
def numeral (base width n : Nat) : List Char :=
  let digits := (Nat.toDigits base n).map Char.toUpper
  List.replicate (width - digits.length) '0' ++ digits

/-- The code point of a member of a family. -/
def Family.member? (family : Family) (name : List Char) : Option Nat := do
  let number ← family.stem.toList.isPrefixOf? name
  let code ←
    match family.numbering with
    | .byCode => ofHex? number
    | .counted first _ => (String.ofList number).toNat?.map (family.range.1 + · - first)
  let written :=
    match family.numbering with
    | .byCode => numeral 16 4 code
    | .counted first width => numeral 10 width (code + first - family.range.1)
  let isMember := family.range.1 ≤ code && code ≤ family.range.2
  if isMember && number == written then some code else none

/-- The code point that has a name in a chart, as another name or as a member of a family; the case
of letters does not matter. -/
def listedCode? (name : List Char) : Option Nat :=
  let name := name.map Char.toUpper
  let words := splitOn ' ' name
  let charts := [chart0000, chart1C00, chart2800, chartFC00, chart13000, chart1D400, aliases]
  (families.findSome? (·.member? name)).or (charts.findSome? (codeInChart? · words))

/-- The code point of the character with a name. The sounds of a syllable and the digits of an
ideograph are in capital letters, as is what stands in front of them. -/
def code? (name : String) : Option Nat :=
  match "HANGUL SYLLABLE ".toList.isPrefixOf? name.toList with
  | some sounds => syllable? sounds
  | none =>
    match "CJK UNIFIED IDEOGRAPH-".toList.isPrefixOf? name.toList with
    | some digits => ideograph? digits
    | none => listedCode? name.toList

end ApiCompiler.CharacterName
