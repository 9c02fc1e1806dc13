import ApiCompiler.Charset.MultiByte

/-!
# Character sets chosen by escapes

Some texts of East Asia are written in seven bits. Escapes choose the set of characters that the
bytes after them stand for: ASCII, a set of single bytes, or a grid of two bytes in rows of 94.
Other texts switch between ASCII and a single grid by a tilde.
-/

namespace ApiCompiler.Charset

/-- A text written in seven bits. -/
inductive SevenBit where
  | japanese
  | japanese1
  | japanese2
  | japanese2004
  | japanese3
  | japaneseExtended
  | korean
  deriving DecidableEq

/-- What a set chosen by an escape holds. -/
inductive Letters where
  | roman
  | katakana
  | upperHalf
  | rows (grid : Grid)

/-- The name of a set in escapes: a letter, and whether it is one of two bytes. -/
structure Mark where
  /-- The letter. -/
  letter : Char
  /-- Whether characters take two bytes. -/
  isDouble : Bool
  deriving DecidableEq

/-- The name of ASCII. -/
def Mark.ascii : Mark := ⟨'B', false⟩

namespace SevenBit

/-- The sets that may be chosen besides ASCII. -/
def sets : SevenBit → List (Mark × Letters)
  | japanese => common ++ old
  | japanese1 => common ++ supplement ++ old
  | japanese2 =>
    common ++ supplement ++ old ++
      [(⟨'C', true⟩, .rows (.ofCharts [wansungChart])), (⟨'A', true⟩, .rows basicRows),
        (⟨'A', false⟩, .upperHalf), (⟨'F', false⟩, .upperHalf)]
  | japanese2004 => common ++ newer 'Q' false
  | japanese3 => common ++ newer 'O' true
  | japaneseExtended => common ++ supplement ++ old ++ [(⟨'I', false⟩, .katakana)]
  | korean => [(⟨'C', true⟩, .rows (.ofCharts [wansungChart]))]
where
  common : List (Mark × Letters) := [(⟨'B', true⟩, .rows (.ofCharts [kanjiChart]))]
  old : List (Mark × Letters) :=
    [(⟨'J', false⟩, .roman), (⟨'@', true⟩, .rows (.ofCharts [kanjiChart]))]
  supplement : List (Mark × Letters) :=
    [(⟨'D', true⟩, .rows (.ofCharts [kanjiSupplementChart]))]
  newer (letter : Char) (isFirstEdition : Bool) : List (Mark × Letters) :=
    [(⟨letter, true⟩, .rows (newerKanji isFirstEdition [(111, "~")])),
      (⟨'P', true⟩, .rows (newerSecondPlane isFirstEdition))]
  basicRows : Grid :=
    let grid := basicGuoBiao
    ⟨((List.range' 0xa1 94).flatMap fun first ↦ (List.range' 0xa1 94).map fun second ↦
      ((guoBiaoPlace? first second).bind fun place ↦ grid.table[place]?).getD
        replacement).toArray, []⟩

/-- Whether two control characters switch between two chosen sets. -/
def hasShift (form : SevenBit) : Bool :=
  form == korean

/-- Whether a third set may be chosen, for single characters. -/
def hasThird (form : SevenBit) : Bool :=
  form == japanese2

end SevenBit

/-- What is chosen at a point of a text. -/
structure Choice where
  /-- The set in use. -/
  first : Mark := .ascii
  /-- The set that is in use after a shift. -/
  second : Mark := .ascii
  /-- The set of single characters. -/
  third : Mark := .ascii
  /-- Whether the second set is in use. -/
  isShifted : Bool := false
  /-- Whether an escape is passed through to its end. -/
  isPassing : Bool := false

/-- Whether a byte ends an escape. -/
def endsEscape (byte : UInt8) : Bool :=
  0x40 ≤ byte.toNat && byte.toNat ≤ 0x5a

/-- The longest escape. -/
def maxEscape : Nat := 16

/-- How many bytes the escape at the front has, given a place inside it; zero without an end. An
announcement of a newer edition is part of the escape where such are in use. -/
def escapeSize? (hasEditions : Bool) (bytes : List UInt8) : (fuel place : Nat) → Option Nat
  | 0, _ => some 0
  | fuel + 1, place =>
    if maxEscape ≤ place then some 0
    else
      match bytes[place]? with
      | none => none
      | some byte =>
        if endsEscape byte then some (place + 1)
        else
          let isEdition := hasEditions && byte.toNat == 0x26 && bytes[place + 1]? == some 0x40
          escapeSize? hasEditions bytes fuel (if isEdition then place + 3 else place + 1)

/-- Which of the sets an escape chooses, and the set. -/
def chosen? (form : SevenBit) : (escape : List Char) → Option (Fin 3 × Mark)
  | ['$', letter] => some (0, ⟨letter, true⟩)
  | ['(', letter] => some (0, ⟨letter, false⟩)
  | [')', letter] => some (1, ⟨letter, false⟩)
  | ['.', letter] => if form.hasThird then some (2, ⟨letter, false⟩) else none
  | ['$', '(', letter] => some (0, ⟨letter, true⟩)
  | ['$', ')', letter] => some (1, ⟨letter, true⟩)
  | [_, _, '\x1b', '$', 'B'] => if form.hasShift then none else some (0, ⟨'B', true⟩)
  | _ => none

/-- The state after a set is chosen. -/
def Choice.choose (choice : Choice) (which : Fin 3) (mark : Mark) : Choice :=
  match which with
  | 0 => { choice with first := mark }
  | 1 => { choice with second := mark }
  | 2 => { choice with third := mark }

/-- What an escape at the front does. -/
def escapeStep (form : SevenBit) (marks : List Mark) (choice : Choice) (bytes : List UInt8) :
    Step × Choice :=
  match escapeSize? (!form.hasShift) bytes maxEscape 1 with
  | none => (.unfinished, choice)
  | some 0 => (.wrong 1, choice)
  | some size =>
    let escape := ((bytes.take size).drop 1).map fun byte ↦ Char.ofNat byte.toNat
    match chosen? form escape with
    | some (which, mark) =>
      if mark == .ascii || marks.contains mark then (.found [] size, choice.choose which mark)
      else (.wrong size, choice)
    | none => (.wrong size, choice)

/-- The Greek or other letter of a byte in the upper half of the third set. -/
def greekLetter? (code : Nat) : Option Char :=
  if code < 0xa0 then some (Char.ofNat code)
  else if [0xa0, 0xa3, 0xa6, 0xa7, 0xa8, 0xa9, 0xab, 0xac, 0xad, 0xb0, 0xb1, 0xb2, 0xb3, 0xb7, 0xbb,
      0xbd].contains code then some (Char.ofNat code)
  else if code == 0xa1 then some '‘'
  else if code == 0xa2 then some '’'
  else if code == 0xaf then some '―'
  else if 0xb4 ≤ code && code ≤ 0xfe && code != 0xd2 then some (Char.ofNat (0x2d0 + code))
  else none

/-- A single character of the third set. -/
def thirdStep (choice : Choice) (byte : UInt8) : Step :=
  let code := byte.toNat
  if 0x80 ≤ code then .wrong 3
  else if choice.third == ⟨'A', false⟩ then .found [Char.ofNat (code + 0x80)] 3
  else if choice.third == ⟨'F', false⟩ then
    match greekLetter? (code + 0x80) with
    | some c => .found [c] 3
    | none => .wrong 3
  else .found [Char.ofNat code] 3

/-- What bytes stand for in a chosen set. -/
def letterStep : Letters → List UInt8 → Step
  | .rows grid, first :: second :: _ =>
    match (rowPlace? first.toNat second.toNat).bind grid.find? with
    | some chars => .found chars 2
    | none => .wrong 2
  | .rows _, _ => .unfinished
  | .roman, byte :: _ =>
    .found [if byte == 0x5c then '¥' else if byte == 0x7e then '‾' else Char.ofNat byte.toNat] 1
  | .katakana, byte :: _ =>
    if 0x21 ≤ byte.toNat && byte.toNat ≤ 0x5f then .found [Char.ofNat (0xff40 + byte.toNat)] 1
    else .wrong 1
  | _, _ => .wrong 1

/-- What bytes begin with. -/
def sevenBitStep (form : SevenBit) (sets : List (Mark × Letters)) (choice : Choice)
    (bytes : List UInt8) : Step × Choice :=
  match bytes with
  | [] => (.unfinished, choice)
  | byte :: rest =>
    let code := byte.toNat
    let itself : Step := .found [Char.ofNat code] 1
    if choice.isPassing then (itself, { choice with isPassing := !endsEscape byte })
    else if code == 0x1b then
      match rest with
      | [] => (.unfinished, choice)
      | second :: rest =>
        if "()$.&".toList.contains (Char.ofNat second.toNat) then
          escapeStep form (sets.map Prod.fst) choice bytes
        else if form.hasThird && second.toNat == 0x4e then
          match rest with
          | [] => (.unfinished, choice)
          | third :: _ => (thirdStep choice third, choice)
        else (itself, { choice with isPassing := true })
    else if code == 0x0f && form.hasShift then (.found [] 1, { choice with isShifted := false })
    else if code == 0x0e && form.hasShift then (.found [] 1, { choice with isShifted := true })
    else if code == 0x0a then (itself, { choice with isShifted := false })
    else if code < 0x20 then (itself, choice)
    else if 0x80 ≤ code then (.wrong 1, choice)
    else
      let mark := if choice.isShifted then choice.second else choice.first
      match sets.lookup mark with
      | some letters => (letterStep letters bytes, choice)
      | none => (itself, choice)

/-- The most bytes that may remain at the end. -/
def maxRemains : Nat := 8

/-- The text of bytes, unless too many of them remain at the end. -/
def SevenBit.decode? (form : SevenBit) (bytes : List UInt8) : Option (List Char) :=
  let decoded := decodeStates (sevenBitStep form form.sets) [] {} bytes
  if maxRemains < decoded.2.length then none else some (withRemains decoded)

/-- What bytes begin with where a tilde switches between ASCII and a grid. -/
def tildeStep (grid : Grid) (isGrid : Bool) : List UInt8 → Step × Bool
  | [] => (.unfinished, isGrid)
  | first :: rest =>
    if first.toNat == 0x7e then
      match rest with
      | [] => (.unfinished, isGrid)
      | second :: _ =>
        match isGrid, Char.ofNat second.toNat with
        | false, '~' => (.found ['~'] 2, false)
        | false, '\x7b' => (.found [] 2, true)
        | false, '\n' => (.found [] 2, false)
        | true, '\x7d' => (.found [] 2, false)
        | _, _ => (.wrong 1, isGrid)
    else if 0x80 ≤ first.toNat then (.wrong 1, isGrid)
    else if !isGrid then (.found [Char.ofNat first.toNat] 1, isGrid)
    else
      match rest with
      | [] => (.unfinished, isGrid)
      | second :: _ =>
        let place? := if 0x80 ≤ second.toNat then none
          else MultiByte.gb2312.place? (first.toNat + 0x80) (second.toNat + 0x80)
        (.ofChars? 2 (place?.bind grid.find?), isGrid)

/-- The text of bytes where a tilde switches between ASCII and the basic Chinese set. -/
def decodeTilde (bytes : List UInt8) : List Char :=
  withRemains (decodeStates (tildeStep basicGuoBiao) [] false bytes)

end ApiCompiler.Charset
