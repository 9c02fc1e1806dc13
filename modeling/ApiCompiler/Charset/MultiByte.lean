import ApiCompiler.Charset.BigFiveChart
import ApiCompiler.Charset.GuoBiaoChart
import ApiCompiler.Charset.Hangul
import ApiCompiler.Charset.KanjiChart

/-!
# Character sets of several bytes

The character sets of East Asia write ASCII in single bytes and most other characters in two, three
or four bytes, the first of which lies beyond ASCII. Two bytes denote a place of a grid. Bytes
without a meaning are replaced one by one, and so is what remains at the end.
-/

namespace ApiCompiler.Charset

/-- A character set of several bytes. -/
inductive MultiByte where
  | gb2312
  | gbk
  | gb18030
  | big5
  | cp950
  | hongKong
  | eucKr
  | cp949
  | johab
  | shiftJis
  | cp932
  | shiftJis2004
  | shiftJisX0213
  | eucJp
  | eucJis2004
  | eucJisX0213
  deriving DecidableEq

/-- The place of two bytes in rows of 190. -/
def guoBiaoPlace? (first second : Nat) : Option Nat :=
  if first < 0x81 || first == 0xff || second < 0x40 || second == 0x7f || second == 0xff then none
  else some ((first - 0x81) * 190 + (if second < 0x7f then second - 0x40 else second - 0x41))

/-- The place of two bytes in rows of 157. -/
def bigFivePlace? (first second : Nat) : Option Nat :=
  if first < 0x81 || first == 0xff || second == 0xff then none
  else if 0x40 ≤ second && second < 0x7f then some ((first - 0x81) * 157 + (second - 0x40))
  else if 0xa1 ≤ second then some ((first - 0x81) * 157 + (second - 0xa1 + 63))
  else none

/-- The place of two bytes in rows of 94, without their highest bits. -/
def rowPlace? (first second : Nat) : Option Nat :=
  if first < 0x21 || 0x7e < first || second < 0x21 || 0x7e < second then none
  else some ((first - 0x21) * 94 + (second - 0x21))

/-- The place of two bytes in rows of 94, two of which share a first byte. -/
def shiftedPlace? (first second : Nat) : Option Nat :=
  if second < 0x40 || second == 0x7f || 0xfc < second then none
  else
    let row := if first < 0xe0 then first - 0x81 else first - 0xc1
    some (row * 188 + (if second < 0x7f then second - 0x40 else second - 0x41))

/-- The places of the extended Chinese set between those of the basic set. -/
def guoBiaoGaps : List (Nat × Nat) :=
  [(6366, 6375), (7189, 7200), (7203, 7207), (7209, 7210), (7532, 7532), (7534, 7535),
    (7537, 7537)]

/-- What differs in the basic Chinese set. -/
def guoBiaoVariants : List (Nat × String) :=
  [(6179, "・"), (6185, "―")]

/-- The grid of the basic Chinese set. -/
def basicGuoBiao : Grid :=
  let gaps := guoBiaoGaps.map fun (low, high) ↦
    (low, String.ofList (List.replicate (high + 1 - low) replacement))
  .ofCharts [guoBiaoChart, guoBiaoVariants, gaps]

/-- Runs of code points for private use, each in rows of places. -/
def privateRows (first : Nat) (rows : List (Nat × Nat)) : List (Nat × String) :=
  (rows.foldl
    (fun (runs, code) (place, count) ↦
      let chars := (List.range count).map fun i ↦ Char.ofNat (code + i)
      ((place, String.ofList chars) :: runs, code + count))
    ([], first)).1

/-- The places for private use of the full Chinese set. -/
def guoBiaoPrivate : List (Nat × String) :=
  let upper (row : Nat) : Nat × Nat := (row * 190 + 96, 94)
  let lower (row : Nat) : Nat × Nat := (row * 190, 96)
  privateRows 0xe000
    ((List.range' 0x29 6).map upper ++ (List.range' 0x77 7).map upper ++
      (List.range' 0x20 7).map lower)

/-- The places for private use of code page 932. -/
def kanjiPrivate : List (Nat × String) :=
  privateRows 0xe000 [(94 * 94, 1880)]

/-- The rows of the second plane that stand behind the first plane where all rows are numbered. -/
def secondPlaneRows : List Nat :=
  [1, 8, 3, 4, 5, 12, 13, 14, 15] ++ List.range' 78 17

/-- What differs in the first edition of the newer Japanese set, second plane. -/
def secondPlaneFirstEdition : List (Nat × String) :=
  [(8674, "\u9b1d")]

/-- A grid with the rows of the second plane behind those of the first one. -/
def withSecondPlane (first second : Grid) : Grid :=
  let table := first.table ++ Array.replicate (94 * 94 - first.table.size) replacement
  let row (number : Nat) : List Char := (List.range 94).map fun column ↦
    second.table.getD ((number - 1) * 94 + column) replacement
  { first with table := table ++ (secondPlaneRows.flatMap row).toArray }

/-- The characters of a row that have a tilde and a backslash of their own. -/
def plainSigns : List (Nat × String) :=
  [(31, "\\"), (111, "~")]

/-- The grid of the newer Japanese set, first plane. -/
def newerKanji (isFirstEdition : Bool) (signs : List (Nat × String)) : Grid :=
  .ofCharts
    [kanjiChart, kanjiAdditions, if isFirstEdition then kanjiFirstEdition else [], signs] kanjiPairs

/-- The grid of the newer Japanese set, second plane. -/
def newerSecondPlane (isFirstEdition : Bool) : Grid :=
  .ofCharts [kanjiSecondPlane, if isFirstEdition then secondPlaneFirstEdition else []]

/-- The places of the charts with the second plane on top of the supplement. -/
def newerSupplement (isFirstEdition : Bool) : Grid :=
  .ofCharts [kanjiSupplementChart, kanjiSecondPlane,
    if isFirstEdition then secondPlaneFirstEdition else []]

namespace MultiByte

/-- The grid of two bytes. -/
def grid : MultiByte → Grid
  | gb2312 => basicGuoBiao
  | gbk => .ofCharts [guoBiaoChart]
  | gb18030 => .ofCharts [guoBiaoChart, guoBiaoAdditions, guoBiaoPrivate]
  | big5 => .ofCharts [bigFiveChart]
  | cp950 => .ofCharts [bigFiveChart, bigFiveVariants]
  | hongKong => .ofCharts [bigFiveChart, bigFiveSupplement] bigFivePairs
  | eucKr | cp949 | johab => .ofCharts [wansungChart]
  | shiftJis | eucJp => .ofCharts [kanjiChart]
  | cp932 => .ofCharts [kanjiChart, kanjiPrivate, kanjiVariants]
  | shiftJis2004 => withSecondPlane (newerKanji false plainSigns) (newerSecondPlane false)
  | shiftJisX0213 => withSecondPlane (newerKanji true plainSigns) (newerSecondPlane true)
  | eucJis2004 => newerKanji false []
  | eucJisX0213 => newerKanji true []

/-- The grid of the bytes after a mark for further characters. -/
def supplement : MultiByte → Grid
  | eucJp => .ofCharts [kanjiSupplementChart]
  | eucJis2004 => newerSupplement false
  | eucJisX0213 => newerSupplement true
  | _ => .empty

/-- The place that two bytes denote. -/
def place? (set : MultiByte) (first second : Nat) : Option Nat :=
  match set with
  | gb2312 => if first < 0xa1 || second < 0xa1 then none else guoBiaoPlace? first second
  | gbk | gb18030 => guoBiaoPlace? first second
  | big5 | cp950 | hongKong => bigFivePlace? first second
  | shiftJis | cp932 | shiftJis2004 | shiftJisX0213 => shiftedPlace? first second
  | _ => if first < 0x80 || second < 0x80 then none else rowPlace? (first - 0x80) (second - 0x80)

/-- The character of a byte on its own, in sets where two rows share a first byte. -/
def shiftedSingle? (set : MultiByte) (byte : Nat) : Option Char :=
  if set != cp932 && set != shiftJis && byte == 0x5c then some '¥'
  else if set != cp932 && set != shiftJis && byte == 0x7e then some '‾'
  else if byte < 0x80 then some (Char.ofNat byte)
  else if 0xa1 ≤ byte && byte ≤ 0xdf then some (Char.ofNat (0xfec0 + byte))
  else if set != cp932 then none
  else if byte == 0x80 then some (Char.ofNat 0x80)
  else if byte == 0xa0 then some (Char.ofNat 0xf8f0)
  else if 0xfd ≤ byte then some (Char.ofNat (0xf8f1 + (byte - 0xfd)))
  else none

/-- What a decoder looks up. -/
structure Tables where
  /-- The characters of two bytes. -/
  grid : Grid
  /-- The characters of two bytes after a mark. -/
  supplement : Grid
  /-- Characters in an order of their own: the syllables or the others that the grid lacks. -/
  beyond : Array Char

/-- The code points below 0x10000 that no two bytes stand for, in order. -/
def charactersBeyond (grid : Grid) : Array Char :=
  let present := grid.table.foldl (fun present c ↦ present.setIfInBounds c.toNat true)
    (Array.replicate 0x10000 false)
  let isCharacter (code : Nat) : Bool := 0x80 ≤ code && (code < 0xd800 || 0xe000 ≤ code)
  ((List.range 0x10000).filterMap fun code ↦
    if isCharacter code && (code == 0xfffd || !present.getD code false) then
      some (Char.ofNat code)
    else none).toArray

/-- What the decoder of a set looks up. -/
def tables (set : MultiByte) : Tables :=
  let grid := set.grid
  { grid
    supplement := set.supplement
    beyond :=
      match set with
      | cp949 => syllablesBeyond grid
      | gb18030 => charactersBeyond grid
      | _ => #[] }

/-- The character of four bytes, two of which are decimal digits. -/
def fourBytes? (beyond : Array Char) (a b c d : Nat) : Option Char :=
  if a < 0x81 || a == 0xff || c < 0x81 || c == 0xff || d < 0x30 || 0x39 < d then none
  else
    let place := (((a - 0x81) * 10 + (b - 0x30)) * 126 + (c - 0x81)) * 10 + (d - 0x30)
    if place < beyond.size then beyond[place]?
    else if 189000 ≤ place && place < 189000 + 0x100000 then
      some (Char.ofNat (0x10000 + (place - 189000)))
    else none

/-- Whether a place is empty in the first edition of a set that is in use. -/
def isEmptied (set : MultiByte) (place : Nat) : Bool :=
  (set == shiftJisX0213 || set == eucJisX0213) &&
    kanjiFirstEdition.any fun (first, text) ↦ first ≤ place && place < first + text.length

/-- The characters of two bytes. -/
def twoBytes? (set : MultiByte) (tables : Tables) (first second : Nat) : Option (List Char) :=
  let found := (set.place? first second).bind tables.grid.find?
  match set with
  | johab =>
    if first < 0xd8 then (bitwise? first second).map ([·])
    else (behindBitsPlace? first second).bind tables.grid.find?
  | cp949 =>
    match found with
    | some chars => some chars
    | none => ((beyondPlace? first second).bind (tables.beyond[·]?)).map ([·])
  | _ => found

/-- What two bytes stand for in a set with editions. -/
def editionStep (set : MultiByte) (tables : Tables) (first second : Nat) : Step :=
  if (set.place? first second).any set.isEmptied then .wrong 2
  else .ofChars? 2 (set.twoBytes? tables first second)

/-- What bytes begin with in a set where two rows share a first byte. -/
def shiftedStep (set : MultiByte) (tables : Tables) (first : Nat) (rest : List UInt8) : Step :=
  match set.shiftedSingle? first, rest with
  | some c, _ => .found [c] 1
  | none, [] => if first == 0x80 || first == 0xa0 || 0xfc < first then .wrong 1 else .unfinished
  | none, second :: _ =>
    if first == 0x80 || first == 0xa0 || 0xfc < first then .wrong 1
    else set.editionStep tables first second.toNat

/-- What bytes begin with in a set that has marks for further characters. -/
def markedStep (set : MultiByte) (tables : Tables) (first : Nat) (rest : List UInt8) : Step :=
  match rest with
  | [] => .unfinished
  | second :: rest =>
    let second := second.toNat
    if first == 0x8e then
      if 0xa1 ≤ second && second ≤ 0xdf then .found [Char.ofNat (0xfec0 + second)] 2 else .wrong 1
    else if first == 0x8f then
      match rest with
      | [] => .unfinished
      | third :: _ =>
        let third := third.toNat
        let place? :=
          if second < 0x80 || third < 0x80 then none else rowPlace? (second - 0x80) (third - 0x80)
        .ofChars? 3 (place?.bind tables.supplement.find?)
    else set.editionStep tables first second

/-- What bytes begin with that may write a syllable by its letters. -/
def composedStep (set : MultiByte) (tables : Tables) (first : Nat) : List UInt8 → Step
  | [] => .unfinished
  | second :: rest =>
    if first == 0xa4 && second == 0xd4 then
      match rest with
      | a :: initial :: b :: vowel :: c :: final :: _ =>
        if a == 0xa4 && b == 0xa4 && c == 0xa4 then
          .ofChars? 8 ((composed? initial.toNat vowel.toNat final.toNat).map ([·]))
        else .wrong 1
      | _ => .unfinished
    else .ofChars? 2 (set.twoBytes? tables first second.toNat)

/-- What bytes begin with in a set where two or four bytes stand for a character. -/
def fourStep (set : MultiByte) (tables : Tables) (first : Nat) : List UInt8 → Step
  | [] => .unfinished
  | second :: rest =>
    if 0x30 ≤ second.toNat && second.toNat ≤ 0x39 then
      match rest with
      | third :: fourth :: _ =>
        .ofChars? 4
          ((fourBytes? tables.beyond first second.toNat third.toNat fourth.toNat).map ([·]))
      | _ => .unfinished
    else .ofChars? 2 (set.twoBytes? tables first second.toNat)

/-- What bytes begin with. -/
def step (set : MultiByte) (tables : Tables) : List UInt8 → Step
  | [] => .unfinished
  | byte :: rest =>
    let first := byte.toNat
    match set with
    | shiftJis | cp932 | shiftJis2004 | shiftJisX0213 => set.shiftedStep tables first rest
    | _ =>
      if first < 0x80 then .found [Char.ofNat first] 1
      else
        match set, rest with
        | eucJp, rest | eucJis2004, rest | eucJisX0213, rest => set.markedStep tables first rest
        | eucKr, rest => set.composedStep tables first rest
        | gb18030, rest => set.fourStep tables first rest
        | _, [] => .unfinished
        | _, second :: _ => .ofChars? 2 (set.twoBytes? tables first second.toNat)

/-- The text of bytes. -/
def decode (set : MultiByte) (bytes : List UInt8) : List Char :=
  let tables := set.tables
  decodeSteps (set.step tables) bytes

end MultiByte

end ApiCompiler.Charset
