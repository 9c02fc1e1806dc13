/-!
# Types of nodes

A tag names the type of a node. A plain scalar without a tag is of the first type whose spellings it
belongs to, and is text otherwise.
-/

namespace ApiCompiler.Yaml

/-- The type of a node. -/
inductive NodeType where
  | null
  | bool
  | int
  | float
  | text
  | bytes
  | time
  | merge
  | default
  | sequence
  | mapping
  | set
  | orderedMapping
  | pairs
  | unknown
  deriving DecidableEq

/-- The types with their tags in the core schema. -/
def NodeType.tags : List (String × NodeType) :=
  [("null", .null), ("bool", .bool), ("int", .int), ("float", .float), ("str", .text),
    ("binary", .bytes), ("timestamp", .time), ("merge", .merge), ("value", .default),
    ("seq", .sequence), ("map", .mapping), ("set", .set), ("omap", .orderedMapping),
    ("pairs", .pairs)]

/-- What the tags of the core schema begin with. -/
def coreNamespace : String :=
  "tag:yaml.org,2002:"

/-- The type that a tag names. -/
def NodeType.ofTag (tag : String) : NodeType :=
  ((tags.find? fun (name, _) ↦ coreNamespace ++ name == tag).map Prod.snd).getD .unknown

/-- A decimal digit or a separator between digits. -/
def isSpaced (c : Char) : Bool :=
  c.isDigit || c == '_'

/-- The text after a sign, if it has one. -/
def afterSign : List Char → List Char
  | c :: rest => if c == '-' || c == '+' then rest else c :: rest
  | [] => []

/-- One or two digits of a text and the rest, once for each way to cut. -/
def splitPair : List Char → List (List Char × List Char)
  | a :: b :: rest =>
    if a.isDigit then
      ([a], b :: rest) :: (if b.isDigit then [([a, b], rest)] else [])
    else []
  | [a] => if a.isDigit then [([a], [])] else []
  | [] => []

/-- Whether digits are below sixty. -/
def isSixtieth (digits : List Char) : Bool :=
  digits.length == 1 || digits.head?.any (· < '6')

/-- Whether a text is a list of numbers below sixty, each after a colon, and a given ending. -/
def isSixtieths (isEnd : List Char → Bool) : (fuel : Nat) → List Char → Bool
  | 0, _ => false
  | fuel + 1, ':' :: rest =>
    (splitPair rest).any fun (digits, rest) ↦
      isSixtieth digits && (isEnd rest || isSixtieths isEnd fuel rest)
  | _, _ => false

/-- Digits that begin with a digit, and the rest. -/
def splitSpaced (text : List Char) : Option (List Char) :=
  if text.head?.any Char.isDigit then some (text.dropWhile isSpaced) else none

/-- An exponent with a sign, or nothing. -/
def isExponent : List Char → Bool
  | [] => true
  | e :: sign :: digits =>
    (e == 'e' || e == 'E') && (sign == '-' || sign == '+') && !digits.isEmpty &&
      digits.all Char.isDigit
  | _ => false

/-- The rest of a number after its point. -/
def isFraction (text : List Char) : Bool :=
  isExponent (text.dropWhile isSpaced)

/-- A point followed by digits and separators only. -/
def isPointed : List Char → Bool
  | '.' :: rest => rest.all isSpaced
  | _ => false

/-- The spellings of a floating-point number. -/
def isFloat (text : List Char) : Bool :=
  let body := afterSign text
  (match splitSpaced body with
    | some ('.' :: rest) => isFraction rest
    | some rest => isSixtieths isPointed rest.length rest
    | none => false) ||
  (match text with
    | '.' :: c :: rest => c.isDigit && isFraction rest
    | _ => false) ||
  [".inf", ".Inf", ".INF"].contains (String.ofList body) ||
  [".nan", ".NaN", ".NAN"].contains (String.ofList text)

/-- Whether a text is not empty and consists of characters of a class. -/
def isRun (isPart : Char → Bool) (text : List Char) : Bool :=
  !text.isEmpty && text.all isPart

/-- A hexadecimal digit or a separator. -/
def isHexSpaced (c : Char) : Bool :=
  isSpaced c || ('a' ≤ c && c ≤ 'f') || ('A' ≤ c && c ≤ 'F')

/-- The spellings of an integer. -/
def isInteger (text : List Char) : Bool :=
  match afterSign text with
  | ['0'] => true
  | '0' :: 'b' :: rest => isRun (fun c ↦ c == '0' || c == '1' || c == '_') rest
  | '0' :: 'x' :: rest => isRun isHexSpaced rest
  | '0' :: rest => isRun (fun c ↦ ('0' ≤ c && c ≤ '7') || c == '_') rest
  | c :: rest =>
    c.isDigit &&
      (let rest := rest.dropWhile isSpaced
       rest.isEmpty || isSixtieths List.isEmpty rest.length rest)
  | [] => false

/-- The spellings of truth values. -/
def truthWords : List (String × Bool) :=
  [("yes", true), ("Yes", true), ("YES", true), ("no", false), ("No", false), ("NO", false),
    ("true", true), ("True", true), ("TRUE", true), ("false", false), ("False", false),
    ("FALSE", false), ("on", true), ("On", true), ("ON", true), ("off", false), ("Off", false),
    ("OFF", false)]

/-- The spellings of the null value. -/
def nullWords : List String := ["", "~", "null", "Null", "NULL"]

/-- A count of digits at the front of a text: between `least` and `most`. -/
def splitDigitRun (least most : Nat) (text : List Char) : Option (List Char × List Char) :=
  let run := (text.takeWhile Char.isDigit).take most
  if run.length < least then none else some (run, text.drop run.length)

/-- A distance from universal time as it is written: its sign, hours and minutes. -/
structure ZoneText where
  negative : Bool
  hours : List Char
  minutes : Option (List Char)

/-- The parts of a date or an instant as they are written. -/
structure TimeText where
  year : List Char
  month : List Char
  day : List Char
  /-- The hour, minute and second, and the digits of the fraction. -/
  clock : Option (List Char × List Char × List Char × List Char) := none
  /-- Nothing, or universal time, or a distance from it. -/
  zone : Option (Option ZoneText) := none

/-- The distance from universal time at the end of an instant. -/
def readZone? (text : List Char) : Option (Option (Option ZoneText)) :=
  let body := text.dropWhile fun c ↦ c == ' ' || c == '\t'
  match body with
  | [] => if text.isEmpty then some none else none
  | ['Z'] => some (some none)
  | sign :: rest =>
    if sign == '-' || sign == '+' then
      match splitDigitRun 1 2 rest with
      | some (hours, []) => some (some (some ⟨sign == '-', hours, none⟩))
      | some (hours, [':', a, b]) =>
        if a.isDigit && b.isDigit then some (some (some ⟨sign == '-', hours, some [a, b]⟩))
        else none
      | _ => none
    else none

/-- The time of day of an instant, with what follows it. -/
def readClock? (text : List Char) :
    Option ((List Char × List Char × List Char × List Char) × List Char) := do
  let text ←
    match text with
    | c :: rest =>
      if c == 'T' || c == 't' then some rest
      else if c == ' ' || c == '\t' then some (rest.dropWhile fun c ↦ c == ' ' || c == '\t')
      else none
    | [] => none
  let (hour, rest) ← splitDigitRun 1 2 text
  match rest with
  | ':' :: a :: b :: ':' :: c :: d :: rest =>
    if [a, b, c, d].all Char.isDigit then
      match rest with
      | '.' :: rest =>
        some ((hour, [a, b], [c, d], rest.takeWhile Char.isDigit), rest.dropWhile Char.isDigit)
      | rest => some ((hour, [a, b], [c, d], []), rest)
    else none
  | _ => none

/-- The parts of a date or an instant. -/
def readTime? (text : List Char) : Option TimeText := do
  let (year, rest) ← splitDigitRun 4 4 text
  match rest with
  | '-' :: rest =>
    let (month, rest) ← splitDigitRun 1 2 rest
    match rest with
    | '-' :: rest =>
      let (day, rest) ← splitDigitRun 1 2 rest
      if rest.isEmpty then return { year, month, day }
      else
        let (clock, rest) ← readClock? rest
        return { year, month, day, clock := some clock, zone := ← readZone? rest }
    | _ => none
  | _ => none

/-- The spellings of dates and instants that need no tag: a date alone has all its digits. -/
def isTime (text : List Char) : Bool :=
  match readTime? text with
  | none => false
  | some time => time.clock.isSome || (time.month.length == 2 && time.day.length == 2)

/-- A text without a line end as its last character. -/
def withoutFinalBreak (text : List Char) : List Char :=
  if text.getLast? == some '\n' then text.dropLast else text

/-- The type of a plain scalar; an indicator of properties or aliases alone has none. -/
def plainType (text : String) : NodeType :=
  let chars := withoutFinalBreak text.toList
  let word := String.ofList chars
  if text.toList.head? == some '\n' then .text
  else if truthWords.any fun (w, _) ↦ w == word then .bool
  else if isFloat chars then .float
  else if isInteger chars then .int
  else if word == "<<" then .merge
  else if nullWords.contains word then .null
  else if isTime chars then .time
  else if word == "=" then .default
  else if ["!", "&", "*"].contains word then .unknown
  else .text

end ApiCompiler.Yaml
