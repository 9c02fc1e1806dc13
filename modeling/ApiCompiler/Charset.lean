import ApiCompiler.Charset.Designated
import ApiCompiler.Charset.Escaped
import ApiCompiler.Charset.Shifted
import ApiCompiler.Charset.SingleByte
import ApiCompiler.Files.Utf8
import ApiCompiler.Text.Split

/-!
# Character sets

The text that bytes stand for in a character set. What stands for nothing is replaced, so most sets
have a text for all bytes; a few refuse bytes that do not begin with a mark of their order, and some
are no sets of characters at all.
-/

namespace ApiCompiler

/-- Why bytes have no text in a character set. -/
inductive CharsetFault where
  | noOrderMark (width : Nat)
  | notReplacing
  | undefinedSet
  | notText
  | notBytes
  | notAscii (byte : UInt8) (place : Nat)
  | remainsTooLong
  | nullInName
  deriving DecidableEq

/-- The text of a fault. -/
def CharsetFault.message : CharsetFault → String
  | noOrderMark width => "UTF-" ++ toString (8 * width) ++ " stream does not start with BOM"
  | notReplacing => "Unsupported error handling replace"
  | undefinedSet => "undefined encoding"
  | notText => ""
  | notAscii byte place =>
    "'ascii' codec can't decode byte 0x" ++ String.ofList (Text.hexFixed 2 byte.toNat) ++
      " in position " ++ toString place ++ ": ordinal not in range(128)"
  | remainsTooLong => "pending buffer overflow"
  | nullInName => "embedded null character"
  | notBytes => "descriptor 'translate' for 'str' objects doesn't apply to a 'bytes' object"

/-- The order of the bytes of a number. -/
inductive ByteOrder where
  | lowFirst
  | highFirst

/-- A character set. -/
inductive Charset where
  | utf8
  | markedUtf8
  | utf16 (order : Option ByteOrder)
  | utf32 (order : Option ByteOrder)
  | shifted
  | ascii
  | latin
  | singleByte (table : List String)
  | multiByte (set : Charset.MultiByte)
  | sevenBit (form : Charset.SevenBit)
  | tilde
  | escaped
  | codeEscaped
  | numbered
  | none (fault : CharsetFault)

namespace Charset

/-- A number of bytes in some order. -/
def numberOf (order : ByteOrder) (bytes : List UInt8) : Nat :=
  match order with
  | .lowFirst => bytes.foldr (fun byte n ↦ byte.toNat + 256 * n) 0
  | .highFirst => bytes.foldl (fun n byte ↦ 256 * n + byte.toNat) 0

/-- The character of a code point, if it is one. -/
def character? (code : Nat) : Option Char :=
  if (0xd800 ≤ code && code < 0xe000) || 0x10ffff < code then Option.none
  else some (Char.ofNat code)

/-- The characters of numbers of two bytes each. -/
def decodeTwos (order : ByteOrder) : List UInt8 → List Char
  | [] => []
  | [_] => [replacement]
  | a :: b :: rest =>
    let unit := numberOf order [a, b]
    if unit < 0xd800 || 0xe000 ≤ unit then Char.ofNat unit :: decodeTwos order rest
    else if 0xdc00 ≤ unit then replacement :: decodeTwos order rest
    else
      match rest with
      | c :: d :: more =>
        let second := numberOf order [c, d]
        if 0xdc00 ≤ second && second < 0xe000 then
          Char.ofNat (0x10000 + (unit - 0xd800) * 0x400 + (second - 0xdc00)) ::
            decodeTwos order more
        else replacement :: decodeTwos order (c :: d :: more)
      | _ => [replacement]

/-- The characters of numbers of four bytes each. -/
def decodeFours (order : ByteOrder) : List UInt8 → List Char
  | [] => []
  | a :: b :: c :: d :: rest =>
    (character? (numberOf order [a, b, c, d])).getD replacement :: decodeFours order rest
  | _ => [replacement]

/-- The numbers that hexadecimal digits stand for, four digits to a number. -/
def readTable : List Char → List Nat
  | a :: b :: c :: d :: rest =>
    let digit (c : Char) : Nat := if c.isDigit then c.toNat - 48 else c.toNat - 87
    (((digit a * 16 + digit b) * 16 + digit c) * 16 + digit d) :: readTable rest
  | _ => []

/-- The characters of all bytes under a table for them or for their upper half. -/
def allCharacters (table : List String) : Array Char :=
  let characters := table.flatMap fun line ↦ (readTable line.toList).map Char.ofNat
  ((if characters.length ≤ 128 then (List.range 128).map Char.ofNat else []) ++ characters).toArray

/-- The text of bytes. An order of bytes that is not given is read from a mark in front. -/
def decode : Charset → List UInt8 → Except CharsetFault (List Char)
  | utf8, bytes => .ok (Files.decodeLossy bytes)
  | markedUtf8, bytes =>
    let mark : List UInt8 := [0xef, 0xbb, 0xbf]
    if bytes.isPrefixOf mark then .ok []
    else .ok (Files.decodeLossy (if mark.isPrefixOf bytes then bytes.drop 3 else bytes))
  | utf16 (some order), bytes => .ok (decodeTwos order bytes)
  | utf16 Option.none, 0xff :: 0xfe :: bytes => .ok (decodeTwos .lowFirst bytes)
  | utf16 Option.none, 0xfe :: 0xff :: bytes => .ok (decodeTwos .highFirst bytes)
  | utf16 Option.none, bytes =>
    if bytes.length < 2 then .ok (decodeTwos .lowFirst bytes) else .error (.noOrderMark 2)
  | utf32 (some order), bytes => .ok (decodeFours order bytes)
  | utf32 Option.none, 0xff :: 0xfe :: 0 :: 0 :: bytes => .ok (decodeFours .lowFirst bytes)
  | utf32 Option.none, 0 :: 0 :: 0xfe :: 0xff :: bytes => .ok (decodeFours .highFirst bytes)
  | utf32 Option.none, bytes =>
    if bytes.length < 4 then .ok (decodeFours .lowFirst bytes) else .error (.noOrderMark 4)
  | shifted, bytes => .ok (decodeShifted Option.none bytes)
  | ascii, bytes =>
    .ok (bytes.map fun byte ↦ if byte.toNat < 128 then Char.ofNat byte.toNat else replacement)
  | latin, bytes => .ok (bytes.map fun byte ↦ Char.ofNat byte.toNat)
  | singleByte table, bytes =>
    let characters := allCharacters table
    .ok (bytes.map fun byte ↦ characters.getD byte.toNat replacement)
  | multiByte set, bytes => .ok (set.decode bytes)
  | sevenBit form, bytes => (form.decode? bytes).elim (.error .remainsTooLong) .ok
  | tilde, bytes => .ok (decodeTilde bytes)
  | escaped, bytes => .ok (decodeSteps escapedStep bytes)
  | codeEscaped, bytes => .ok (decodeSteps codeEscapedStep bytes)
  | numbered, bytes =>
    (decodeNumbered bytes).mapError fun (byte, place) ↦ .notAscii byte place
  | none fault, _ => .error fault

/-- Character sets that are no tables, with their names; the first name of each is the main one. -/
def computedSets : List (List String × Charset) :=
  [(["utf_8", "cp65001", "u8", "utf", "utf8", "utf8_ucs2", "utf8_ucs4"], utf8),
   (["utf_8_sig"], markedUtf8),
   (["utf_16", "u16", "utf16"], utf16 Option.none),
   (["utf_16_be", "unicodebigunmarked", "utf_16be"], utf16 (some .highFirst)),
   (["utf_16_le", "unicodelittleunmarked", "utf_16le"], utf16 (some .lowFirst)),
   (["utf_32", "u32", "utf32"], utf32 Option.none),
   (["utf_32_be", "utf_32be"], utf32 (some .highFirst)),
   (["utf_32_le", "utf_32le"], utf32 (some .lowFirst)),
   (["utf_7", "u7", "unicode_1_1_utf_7", "utf7"], shifted),
   (["ascii", "646", "ansi_x3.4_1968", "ansi_x3.4_1986", "ansi_x3_4_1968", "cp367", "csascii",
      "ibm367", "iso646_us", "iso_646.irv_1991", "iso_ir_6", "us", "us_ascii"], ascii),
   (["latin_1", "8859", "cp819", "csisolatin1", "ibm819", "iso8859", "iso8859_1", "iso_8859_1",
      "iso_8859_1_1987", "iso_ir_100", "l1", "latin", "latin1"], latin),
   (["charmap"], latin),
   (["unicode_escape"], escaped),
   (["raw_unicode_escape"], codeEscaped),
   (["punycode"], numbered),
   (["idna"], none .notReplacing),
   (["undefined"], none .undefinedSet),
   (["rot_13", "rot13"], none .notBytes),
   (["base64_codec", "base64", "base_64"], none .notText),
   (["bz2_codec", "bz2"], none .notText),
   (["hex_codec", "hex"], none .notText),
   (["quopri_codec", "quopri", "quoted_printable", "quotedprintable"], none .notText),
   (["uu_codec", "uu"], none .notText),
   (["zlib_codec", "zip", "zlib"], none .notText)]

/-- Character sets of several bytes, with their names. -/
def multiByteSets : List (List String × Charset) :=
  [(["gb2312", "chinese", "csiso58gb231280", "euc_cn", "euccn", "eucgb2312_cn", "gb2312_1980",
      "gb2312_80", "iso_ir_58", "x_mac_simp_chinese"], multiByte .gb2312),
   (["gbk", "936", "cp936", "ms936"], multiByte .gbk),
   (["gb18030", "gb18030_2000"], multiByte .gb18030),
   (["hz", "hz_gb", "hz_gb_2312", "hzgb"], tilde),
   (["big5", "big5_tw", "csbig5", "x_mac_trad_chinese"], multiByte .big5),
   (["cp950", "950", "ms950"], multiByte .cp950),
   (["big5hkscs", "big5_hkscs", "hkscs"], multiByte .hongKong),
   (["euc_kr", "euckr", "korean", "ks_c_5601", "ks_c_5601_1987", "ks_x_1001", "ksc5601", "ksx1001",
      "x_mac_korean"], multiByte .eucKr),
   (["cp949", "949", "ms949", "uhc"], multiByte .cp949),
   (["johab", "cp1361", "ms1361"], multiByte .johab),
   (["shift_jis", "csshiftjis", "s_jis", "shiftjis", "sjis", "x_mac_japanese"],
      multiByte .shiftJis),
   (["cp932", "932", "ms932", "ms_kanji", "mskanji"], multiByte .cp932),
   (["shift_jis_2004", "s_jis_2004", "shiftjis2004", "sjis_2004"], multiByte .shiftJis2004),
   (["shift_jisx0213", "s_jisx0213", "shiftjisx0213", "sjisx0213"], multiByte .shiftJisX0213),
   (["euc_jp", "eucjp", "u_jis", "ujis"], multiByte .eucJp),
   (["euc_jis_2004", "euc_jis2004", "eucjis2004", "jisx0213"], multiByte .eucJis2004),
   (["euc_jisx0213", "eucjisx0213"], multiByte .eucJisX0213),
   (["iso2022_jp", "csiso2022jp", "iso2022jp", "iso_2022_jp"], sevenBit .japanese),
   (["iso2022_jp_1", "iso2022jp_1", "iso_2022_jp_1"], sevenBit .japanese1),
   (["iso2022_jp_2", "iso2022jp_2", "iso_2022_jp_2"], sevenBit .japanese2),
   (["iso2022_jp_2004", "iso2022jp_2004", "iso_2022_jp_2004"], sevenBit .japanese2004),
   (["iso2022_jp_3", "iso2022jp_3", "iso_2022_jp_3"], sevenBit .japanese3),
   (["iso2022_jp_ext", "iso2022jp_ext", "iso_2022_jp_ext"], sevenBit .japaneseExtended),
   (["iso2022_kr", "csiso2022kr", "iso2022kr", "iso_2022_kr"], sevenBit .korean)]

/-- All character sets with their names. -/
def allSets : List (List String × Charset) :=
  computedSets ++ multiByteSets ++ singleByteSets.map fun set ↦ (set.names, singleByte set.table)

/-- A name in small letters, with an underscore for each run of other characters inside. A point may
stand in a name. -/
def normalName (name : List Char) : List Char :=
  let isPart (c : Char) : Bool := c.isAlphanum || c == '.'
  let words := (Text.splitOn '_' (name.map fun c ↦ if isPart c then c.toLower else '_')).filter
    (!·.isEmpty)
  List.intercalate ['_'] words

/-- The character set of a name. A name with points may be another name of a set with underscores in
their place. -/
def ofName? (name : List Char) : Option Charset :=
  let name := normalName name
  let plain := String.ofList (name.map fun c ↦ if c == '.' then '_' else c)
  let name := String.ofList name
  let isNamed (names : List String) : Bool := names.contains name || names.tail.contains plain
  (allSets.find? fun (names, _) ↦ isNamed names).map Prod.snd

end Charset

end ApiCompiler
