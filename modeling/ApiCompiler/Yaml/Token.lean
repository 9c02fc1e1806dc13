import ApiCompiler.Files.Utf8
import ApiCompiler.Yaml.ScalarText

/-!
# Tokens

A text in indented notation becomes a list of tokens: indicators, the starts and ends of blocks that
indentation implies, properties of nodes, and scalars. A key on one line needs no indicator of its
own: when its colon is met, the tokens for the key and for the mapping it opens are put in front of
it. The tokens end with the end of the text or with the fault that stops the reading.
-/

namespace ApiCompiler.Yaml

/-- A directive at the head of a document. -/
inductive Directive where
  | version (major : Nat)
  | handle (name content : String)
  | other
  deriving DecidableEq

/-- A token. -/
inductive Token where
  | streamEnd
  | directive (directive : Directive)
  | documentStart
  | documentEnd
  | blockSequenceStart
  | blockMappingStart
  | blockEnd
  | flowSequenceStart
  | flowSequenceEnd
  | flowMappingStart
  | flowMappingEnd
  | blockEntry
  | flowEntry
  | key
  | value
  | alias (name : String)
  | anchor (name : String)
  | tag (handle : Option String) (suffix : String)
  | scalar (text : String) (plain : Bool)
  | fault (fault : Fault)
  deriving DecidableEq

/-- A character of names of anchors and handles. -/
def isNameChar (c : Char) : Bool :=
  c.isAlphanum || c == '-' || c == '_'

/-- A character of a tag. -/
def isUriChar (c : Char) : Bool :=
  c.isAlphanum || "-;/?:@&=+$,_.!~*'()[]".toList.contains c

/-- The name of an anchor or an alias, after its indicator. -/
def takeAnchorName : Scan String := do
  forward
  let name ← takeWhile isNameChar
  let after ← peek
  require (!name.isEmpty)
  require (endsPlain after || after.any ("?:,]\x7d%@`".toList.contains ·))
  return String.ofList name

/-- The bytes of escapes in a tag. -/
def uriBytes : (fuel : Nat) → Scan (List UInt8)
  | 0 => malformed
  | fuel + 1 => do
    if (← peek) == some '%' then
      forward
      let byte ← takeHex 0 2
      return byte.toUInt8 :: (← uriBytes fuel)
    else return []

/-- The characters of a tag. -/
def uriChars : (fuel : Nat) → Scan (List Char)
  | 0 => malformed
  | fuel + 1 => do
    match ← peek with
    | some c =>
      if c == '%' then
        match Files.decode (← uriBytes fuel) with
        | .ok chars => return chars ++ (← uriChars fuel)
        | .error _ => malformed
      else if isUriChar c then
        let run ← takeWhile isUriChar
        return run ++ (← uriChars fuel)
      else return []
    | none => return []

/-- A part of a tag that is not empty. -/
def takeUri : Scan String := do
  let start := (← get).cursor.index
  let chars ← uriChars (← bound)
  require (start < (← get).cursor.index)
  return String.ofList chars

/-- A handle: an exclamation mark alone, or a name between two of them. -/
def takeHandle : Scan String := do
  require ((← peek) == some '!')
  forward
  if (← peek) == some ' ' then return "!"
  let name ← takeWhile isNameChar
  if (← peek) == some '!' then
    forward
    return String.ofList ('!' :: name ++ ['!'])
  else
    require name.isEmpty
    malformed

/-- Whether another exclamation mark stands before the next blank. -/
def namesHandle : List Char → Bool
  | [] => false
  | c :: rest => c == '!' || (!(c == ' ' || isBreak c) && namesHandle rest)

/-- A tag. -/
def takeTag : Scan Token := do
  let after ← peek 1
  let (handle, suffix) ←
    if after == some '<' then do
      forward 2
      let suffix ← takeUri
      require ((← peek) == some '>')
      forward
      pure ((none : Option String), suffix)
    else if endsPlain after then do
      forward
      pure (none, "!")
    else if namesHandle (← get).cursor.rest.tail then do
      let handle ← takeHandle
      pure (some handle, ← takeUri)
    else do
      forward
      pure (some "!", ← takeUri)
  require (endsWord (← peek))
  return .tag handle suffix

/-- A number of a version. -/
def takeVersionNumber : Scan Nat := do
  let digits ← takeWhile Char.isDigit
  require (!digits.isEmpty)
  if Text.maxDigits < digits.length then throw (.scalar (.tooManyDigits digits.length))
  return digits.foldl (fun n c ↦ n * 10 + (c.toNat - 48)) 0

/-- A directive. -/
def takeDirective : Scan Token := do
  forward
  let name := String.ofList (← takeWhile isNameChar)
  require (name != "" && endsWord (← peek))
  let directive ←
    if name == "YAML" then do
      skipSpaces
      let major ← takeVersionNumber
      require ((← peek) == some '.')
      forward
      let _ ← takeVersionNumber
      require (endsWord (← peek))
      pure (Directive.version major)
    else if name == "TAG" then do
      skipSpaces
      let handle ← takeHandle
      require ((← peek) == some ' ')
      skipSpaces
      let content ← takeUri
      require (endsWord (← peek))
      pure (Directive.handle handle content)
    else do
      let _ ← takeWhile fun c ↦ !isBreak c
      pure Directive.other
  skipRestOfLine
  return .directive directive

/-- A place where a key may have begun. -/
structure PossibleKey where
  /-- The number of tokens before it. -/
  position : Nat
  /-- Whether nothing but a key can stand there. -/
  required : Bool
  /-- Its place in the text. -/
  index : Nat
  /-- Its line. -/
  line : Nat
  /-- Its column. -/
  column : Nat

/-- Whether a key that began on another line or too far back is given up at a cursor. -/
def PossibleKey.isStale (key : PossibleKey) (cursor : Cursor) : Bool :=
  key.line != cursor.line || key.index + 1024 < cursor.index

/-- The tokens read so far, with the places of possible keys by depth of brackets. -/
structure TokenList where
  /-- The tokens in reverse. -/
  reversed : List Token := []
  /-- Their number. -/
  count : Nat := 0
  /-- The possible keys. -/
  keys : List (Nat × PossibleKey) := []

/-- A step of reading tokens. -/
abbrev TokenScan := StateT TokenList Scan

/-- Adds a token. -/
def emit (token : Token) : TokenScan Unit :=
  modify fun t ↦ { t with reversed := token :: t.reversed, count := t.count + 1 }

/-- Adds a token at a position. -/
def insertAt (position : Nat) (token : Token) : TokenScan Unit :=
  modify fun t ↦
    let after := t.count - position
    { t with
      reversed := t.reversed.take after ++ token :: t.reversed.drop after
      count := t.count + 1 }

/-- The state of the reading. -/
def scanner : TokenScan Scanner :=
  liftM (get : Scan Scanner)

/-- Changes the state of the reading. -/
def update (f : Scanner → Scanner) : TokenScan Unit :=
  liftM (modify f : Scan Unit)

/-- Fails unless a condition holds. -/
def demand (condition : Bool) : TokenScan Unit :=
  liftM (require condition)

/-- Forgets possible keys that lie on another line or too far back. -/
def dropStaleKeys : TokenScan Unit := do
  let cursor := (← scanner).cursor
  let keys := (← get).keys
  demand (!keys.any fun (_, key) ↦ key.isStale cursor && key.required)
  modify fun t ↦ { t with keys := keys.filter fun (_, key) ↦ !key.isStale cursor }

/-- Forgets the possible key at the current depth. -/
def dropKey : TokenScan Unit := do
  let level := (← scanner).flowLevel
  demand (!((← get).keys.lookup level).any PossibleKey.required)
  modify fun t ↦ { t with keys := t.keys.filter fun (l, _) ↦ l != level }

/-- Notes that a key may begin here. -/
def saveKey : TokenScan Unit := do
  let s ← scanner
  if s.allowKey then
    dropKey
    let cursor := s.cursor
    let required := s.flowLevel == 0 && s.indent == cursor.column
    modify fun t ↦ { t with
      keys := (s.flowLevel, ⟨t.count, required, cursor.index, cursor.line, cursor.column⟩) ::
        t.keys }

/-- The number of blocks that end when the text goes back to a column, and the state after that. -/
def unwound (column : Int) : (indent : Int) → List Int → Nat × Int × List Int
  | indent, [] => if column < indent then (1, -1, []) else (0, indent, [])
  | indent, outer :: rest =>
    if column < indent then
      let (count, indent, indents) := unwound column outer rest
      (count + 1, indent, indents)
    else (0, indent, outer :: rest)

/-- Ends the blocks that begin to the right of a column. -/
def unwind (column : Int) : TokenScan Unit := do
  let s ← scanner
  if s.flowLevel == 0 then
    let (count, indent, indents) := unwound column s.indent s.indents
    update fun s ↦ { s with indent, indents }
    (List.replicate count Token.blockEnd).forM emit

/-- Opens a block at a column, unless one is open there; tells whether it did. -/
def openBlock (column : Nat) : TokenScan Bool := do
  let s ← scanner
  if s.indent < column then
    update fun s ↦ { s with indents := s.indent :: s.indents, indent := column }
    return true
  else return false

/-- Opens a block that begins with a token, outside brackets. -/
def openBlockHere (start : Token) : TokenScan Unit := do
  let s ← scanner
  if s.flowLevel == 0 then
    demand s.allowKey
    if ← openBlock s.cursor.column then emit start

/-- Moves past blanks, comments and line ends to the next token. -/
def skipToToken : (fuel : Nat) → Scan Unit
  | 0 => malformed
  | fuel + 1 => do
    skipSpaces
    skipComment
    if (← peek).any isBreak then
      let _ ← takeBreak
      if (← get).flowLevel == 0 then setAllowKey true
      skipToToken fuel

/-- Ends all blocks in front of the end of the text, a directive or a document marker. -/
def closeAll : TokenScan Unit := do
  unwind (-1)
  dropKey
  liftM (setAllowKey false)

/-- Reads an indicator of some characters. -/
def takeIndicator (token : Token) (length : Nat) : TokenScan Unit := do
  liftM (forward length)
  emit token

/-- Reads the start of a bracketed collection. -/
def openFlow (token : Token) : TokenScan Unit := do
  saveKey
  update fun s ↦ { s with flowLevel := s.flowLevel + 1, allowKey := true }
  takeIndicator token 1

/-- Reads the end of a bracketed collection; a bracket that was not opened is malformed. -/
def closeFlow (token : Token) : TokenScan Unit := do
  dropKey
  demand (0 < (← scanner).flowLevel)
  update fun s ↦ { s with flowLevel := s.flowLevel - 1, allowKey := false }
  takeIndicator token 1

/-- Reads the indicator of a value, and makes a key of the possible key in front of it. -/
def takeValue : TokenScan Unit := do
  let s ← scanner
  match (← get).keys.lookup s.flowLevel with
  | some key =>
    modify fun t ↦ { t with keys := t.keys.filter fun (l, _) ↦ l != s.flowLevel }
    insertAt key.position .key
    if s.flowLevel == 0 then
      if ← openBlock key.column then insertAt key.position .blockMappingStart
    liftM (setAllowKey false)
  | none =>
    openBlockHere .blockMappingStart
    liftM (setAllowKey (s.flowLevel == 0))
    dropKey
  takeIndicator .value 1

/-- Reads a token that may begin a key. -/
def takeContent (content : Scan Token) : TokenScan Unit := do
  saveKey
  liftM (setAllowKey false)
  let token ← liftM content
  emit token

/-- Whether a plain scalar begins with a character, given the one after it. -/
def startsPlain (inFlow : Bool) (c : Char) (after : Option Char) : Bool :=
  !(endsPlain (some c) || "-?:,[]\x7b\x7d#&*!|>'\"%@`".toList.contains c) ||
    (!endsPlain after && (c == '-' || (!inFlow && (c == '?' || c == ':'))))

/-- Reads a block scalar. -/
def takeBlockToken (folded : Bool) : TokenScan Unit := do
  liftM (setAllowKey true)
  dropKey
  let text ← liftM (takeBlock folded)
  emit (.scalar text false)

/-- Reads the token that begins with a character. -/
def takeToken (c : Char) : TokenScan Unit := do
  let s ← scanner
  let cursor := s.cursor
  let inFlow := 0 < s.flowLevel
  let after := cursor.peek 1
  if c == '%' && cursor.column == 0 then
    closeAll
    emit (← liftM takeDirective)
  else if c == '-' && cursor.column == 0 && cursor.atMarker then
    closeAll
    takeIndicator .documentStart 3
  else if c == '.' && cursor.column == 0 && cursor.atMarker then
    closeAll
    takeIndicator .documentEnd 3
  else if c == '[' then openFlow .flowSequenceStart
  else if c == '\x7b' then openFlow .flowMappingStart
  else if c == ']' then closeFlow .flowSequenceEnd
  else if c == '\x7d' then closeFlow .flowMappingEnd
  else if c == ',' then
    liftM (setAllowKey true)
    dropKey
    takeIndicator .flowEntry 1
  else if c == '-' && endsPlain after then
    openBlockHere .blockSequenceStart
    liftM (setAllowKey true)
    dropKey
    takeIndicator .blockEntry 1
  else if c == '?' && (inFlow || endsPlain after) then
    openBlockHere .blockMappingStart
    liftM (setAllowKey !inFlow)
    dropKey
    takeIndicator .key 1
  else if c == ':' && (inFlow || endsPlain after) then takeValue
  else if c == '*' then takeContent (Token.alias <$> takeAnchorName)
  else if c == '&' then takeContent (Token.anchor <$> takeAnchorName)
  else if c == '!' then takeContent takeTag
  else if c == '|' && !inFlow then takeBlockToken false
  else if c == '>' && !inFlow then takeBlockToken true
  else if c == '\'' then takeContent ((Token.scalar · false) <$> takeQuoted false)
  else if c == '"' then takeContent ((Token.scalar · false) <$> takeQuoted true)
  else
    demand (startsPlain inFlow c after)
    takeContent ((Token.scalar · true) <$> takePlain)

/-- Reads the next token and the tokens that it implies; tells whether the text has ended. -/
def takeNext : TokenScan Bool := do
  liftM (skipToToken (← scanner).bound)
  dropStaleKeys
  let cursor := (← scanner).cursor
  unwind cursor.column
  match cursor.peek with
  | none =>
    closeAll
    emit .streamEnd
    return true
  | some c =>
    takeToken c
    return false

/-- The number of tokens in front of the first possible key that is not given up at a cursor, or of
all tokens. The tokens after it are not looked at before it is known whether it is a key. -/
def TokenList.settled (tokens : TokenList) (cursor : Cursor) : Nat :=
  tokens.keys.foldl (fun n (_, key) ↦ if key.isStale cursor then n else min n key.position)
    tokens.count

/-- Reads tokens until the text ends or a fault is met. A fault is met at the first possible key. -/
def readTokens : (fuel : Nat) → TokenList → Scanner → List Token
  | 0, tokens, _ => tokens.reversed.reverse
  | fuel + 1, tokens, s =>
    match (takeNext.run tokens).run s with
    | .error fault => tokens.reversed.reverse.take (tokens.settled s.cursor) ++ [.fault fault]
    | .ok ((true, tokens), _) => tokens.reversed.reverse
    | .ok ((false, tokens), s) => readTokens fuel tokens s

/-- The tokens of a text. A byte order mark at its start is passed over. -/
def tokens (text : List Char) : List Token :=
  if text.all isAllowed then
    let cursor : Cursor := { rest := text }
    let cursor := if cursor.peek == some '\ufeff' then cursor.next else cursor
    let bound := text.length + 2
    readTokens bound {} { cursor, bound }
  else [.fault .malformed]

end ApiCompiler.Yaml
