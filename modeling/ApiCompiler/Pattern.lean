import ApiCompiler.CharacterName
import ApiCompiler.Text.Identifier
import ApiCompiler.Text.Number
import ApiCompiler.Text.Surrogate

/-!
# Well-formed patterns

A pattern of a string schema is kept when the generated language accepts it as a regular expression.
The check reads the pattern once, keeping track of the groups and of the least and greatest number
of characters that each part can match. Only look-behind needs the widths: what it looks at must
have a fixed one. Some faults are not mere syntax errors: a repetition count that does not fit or
has too many digits, global flags that ask for ASCII and for Unicode matching at once, a code point
far too large, a look-behind that is too wide, and groups that are nested too deep.
-/

namespace ApiCompiler.Pattern

/-- Why a text is not accepted as a pattern. -/
inductive Fault where
  | malformed
  | repetitionTooLarge
  | tooManyDigits (count : Nat)
  | contradictoryFlags
  | codePointTooLarge
  | lookbehindTooWide
  | tooDeep
  deriving DecidableEq

/-- The text of a fault. -/
def Fault.message : Fault → String
  | malformed => "not a regular expression"
  | repetitionTooLarge => "the repetition number is too large"
  | tooManyDigits count => Text.tooManyDigitsMessage count
  | contradictoryFlags => "ASCII and UNICODE flags are incompatible"
  | codePointTooLarge => Text.codePointTooLargeMessage
  | lookbehindTooWide => "invalid SRE code"
  | tooDeep => "maximum recursion depth exceeded"

/-- A character of a pattern, an escaped character, or a backslash at the very end. -/
inductive Token where
  | char (c : Char)
  | escape (c : Char)
  | dangling
  deriving DecidableEq

/-- The tokens of a pattern. -/
def tokens : List Char → List Token
  | [] => []
  | ['\\'] => [.dangling]
  | '\\' :: c :: rest => .escape c :: tokens rest
  | c :: rest => .char c :: tokens rest

/-- The text of a token. -/
def Token.text : Token → List Char
  | char c => [c]
  | escape c => ['\\', c]
  | dangling => ['\\']

/-- The least and the greatest number of characters that a part can match. -/
structure Width where
  /-- The least number. -/
  low : Nat
  /-- The greatest number. -/
  high : Nat

/-- Repetition counts stay below this one, which stands for any number of times; widths stop growing
here. -/
def maxRepeat : Nat := (1 <<< 32) - 1

/-- The width of what a look-behind looks at stays below this one. -/
def maxLookbehind : Nat := 1 <<< 31

/-- Group numbers in conditions stay below this one. -/
def maxGroups : Nat := ((1 <<< 31) - 1) / 2

/-- The most groups that may stand around a part. -/
def maxNesting : Nat := 490

/-- The width of parts that follow each other. -/
def Width.sum (parts : List Width) : Width :=
  ⟨min ((parts.map Width.low).foldl (· + ·) 0) (maxRepeat - 1),
    min ((parts.map Width.high).foldl (· + ·) 0) maxRepeat⟩

/-- The width of a choice between parts. -/
def Width.choice : List Width → Width
  | [] => ⟨0, 0⟩
  | w :: rest => rest.foldl (fun a b ↦ ⟨min a.low b.low, max a.high b.high⟩) w

/-- The width of a repetition. -/
def Width.repeat (w : Width) (least greatest : Nat) : Width :=
  ⟨w.low * least, w.high * greatest⟩

/-- What a part is, as far as a quantifier after it is concerned. -/
inductive PartKind where
  | anchor
  | repetition
  | other
  deriving DecidableEq

/-- A part of a sequence. -/
structure Part where
  /-- What it is. -/
  kind : PartKind
  /-- How much it matches. -/
  width : Width

/-- What is known while a pattern is read. -/
structure State where
  /-- The tokens still to read. -/
  rest : List Token
  /-- The groups opened so far, with the widths of those that are closed. -/
  groups : List (Option Width) := []
  /-- The numbers of named groups. -/
  names : List (String × Nat) := []
  /-- The number of groups when the outermost look-behind began, while inside one. -/
  lookbehindFrom : Option Nat := none
  /-- The group numbers that conditions refer to. -/
  conditions : List Nat := []
  /-- The global flags. -/
  flags : List Char := []
  /-- The number of groups around the next part. -/
  depth : Nat := 0
  /-- Whether anything is repeated. -/
  repeats : Bool := false
  /-- Whether some look-behind lacks a fixed width. -/
  looseLookbehind : Bool := false
  /-- Whether some look-behind is too wide. -/
  wideLookbehind : Bool := false

/-- A step of reading a pattern. -/
abbrev Reader := StateT State (Except Fault)

/-- The pattern is malformed. -/
def malformed {α : Type} : Reader α :=
  throw .malformed

/-- Fails unless a condition holds. -/
def require (condition : Bool) : Reader Unit :=
  if condition then pure () else malformed

/-- The next token, which stays unread. -/
def look : Reader (Option Token) := do
  return (← get).rest.head?

/-- Moves to a suffix of the tokens; a backslash at the very end is found as soon as it is next. -/
def moveTo (rest : List Token) : Reader Unit := do
  require (rest.head? != some .dangling)
  modify fun s ↦ { s with rest := rest }

/-- The next token, which is read. -/
def take : Reader (Option Token) := do
  match (← get).rest with
  | [] => return none
  | token :: rest =>
    moveTo rest
    return some token

/-- Reads a character if it is next. -/
def accept (c : Char) : Reader Bool := do
  if (← look) == some (.char c) then
    let _ ← take
    return true
  else return false

/-- Reads the character that must be next. -/
def expect (c : Char) : Reader Unit := do
  require (← accept c)

/-- Reads at most `count` characters of a class. -/
def takeChars (isPart : Char → Bool) : (count : Nat) → Reader (List Char)
  | 0 => return []
  | count + 1 => do
    match ← look with
    | some (.char c) =>
      if isPart c then
        let _ ← take
        return c :: (← takeChars isPart count)
      else return []
    | _ => return []

/-- Reads up to and including a character, and gives the tokens before it if it is there. -/
def takeUntil (c : Char) : Reader (Option (List Token)) := do
  let rest := (← get).rest
  let before := rest.takeWhile (· != .char c)
  require (!before.contains .dangling)
  match rest.drop before.length with
  | [] =>
    moveTo []
    return none
  | _ :: after =>
    moveTo after
    return some before

/-- Reads a name that is not empty up to and including the character that ends it. -/
def takeName (terminator : Char) : Reader String := do
  match ← takeUntil terminator with
  | none => malformed
  | some before =>
    require (!before.isEmpty)
    return String.ofList (before.flatMap Token.text)

/-- An octal digit. -/
def isOctal (c : Char) : Bool :=
  '0' ≤ c && c ≤ '7'

/-- The value of digits in a base up to sixteen. -/
def valueOf (base : Nat) (digits : List Char) : Nat :=
  digits.foldl (fun n c ↦ n * base +
    (if c.isDigit then c.toNat - 48 else if c.isLower then c.toNat - 87 else c.toNat - 55)) 0

/-- A hexadecimal digit. -/
def isHex (c : Char) : Bool :=
  c.isDigit || ('a' ≤ c && c ≤ 'f') || ('A' ≤ c && c ≤ 'F')

/-- A code point of exactly `count` hexadecimal digits. -/
def takeCode (count : Nat) : Reader Nat := do
  let digits ← takeChars isHex count
  let code := valueOf 16 digits
  require (digits.length == count)
  if 0x80000000 ≤ code then throw .codePointTooLarge
  require (code < 0x110000)
  return code

/-- A code point by the name of its character, between braces. -/
def takeNamed : Reader Nat := do
  expect '\x7b'
  match CharacterName.code? (← takeName '\x7d') with
  | some code => return code
  | none => malformed

/-- The code point of an escape that means the same everywhere. -/
def simpleEscape? : Char → Option Nat
  | 'a' => some 7
  | 'f' => some 12
  | 'n' => some 10
  | 'r' => some 13
  | 't' => some 9
  | 'v' => some 11
  | '\\' => some 92
  | _ => none

/-- The code point of an escape by number or by name, or of an escaped character that is no letter
or digit. -/
def takeEscapedCode (c : Char) : Reader Nat := do
  match simpleEscape? c with
  | some code => return code
  | none =>
    if c == 'x' then takeCode 2
    else if c == 'u' then takeCode 4
    else if c == 'U' then takeCode 8
    else if c == 'N' then takeNamed
    else
      require (!c.isAlphanum)
      return Text.codeOf c

/-- A class of characters that an escape stands for. -/
def isClassEscape (c : Char) : Bool :=
  "dDsSwW".toList.contains c

/-- A member of a character set: a code point, or nothing for a class. -/
def takeMember : Token → Reader (Option Nat)
  | .char c => return some (Text.codeOf c)
  | .dangling => malformed
  | .escape c => do
    if isClassEscape c then return none
    else if c == 'b' then return some 8
    else if isOctal c then
      let code := valueOf 8 (c :: (← takeChars isOctal 2))
      require (code ≤ 0o377)
      return some code
    else return some (← takeEscapedCode c)

/-- The members of a character set up to its closing bracket. -/
def takeMembers : (fuel : Nat) → (first : Bool) → Reader Unit
  | 0, _ => malformed
  | fuel + 1, first => do
    match ← take with
    | none => malformed
    | some token =>
      if token == .char ']' && !first then return ()
      else
        let low ← takeMember token
        if ← accept '-' then
          match ← take with
          | none => malformed
          | some (.char ']') => return ()
          | some token =>
            match low, ← takeMember token with
            | some low, some high =>
              require (low ≤ high)
              takeMembers fuel false
            | _, _ => malformed
        else takeMembers fuel false

/-- The width of a group that is closed. -/
def closedWidth? (group : Nat) : Reader (Option Width) := do
  return ((← get).groups[group - 1]?).join

/-- Inside a look-behind only groups from before it may be referred to. -/
def checkLookbehind (group : Nat) : Reader Unit := do
  match (← get).lookbehindFrom with
  | none => return ()
  | some limit =>
    require ((← closedWidth? group).isSome)
    require (group < limit)

/-- A reference to a group that must be closed. -/
def groupReference (group : Nat) : Reader Part := do
  require (group ≤ (← get).groups.length)
  match ← closedWidth? group with
  | none => malformed
  | some width =>
    checkLookbehind group
    return ⟨.other, width⟩

/-- One character. -/
def unitPart : Part := ⟨.other, ⟨1, 1⟩⟩

/-- A position between characters. -/
def anchorPart : Part := ⟨.anchor, ⟨0, 0⟩⟩

/-- An escape whose first digit is not zero: a group reference, or three octal digits. -/
def takeDigitEscape (c : Char) : Reader Part := do
  match ← takeChars Char.isDigit 1 with
  | [] => groupReference (valueOf 10 [c])
  | d :: _ =>
    if isOctal c && isOctal d then
      match ← takeChars isOctal 1 with
      | [] => groupReference (valueOf 10 [c, d])
      | e :: _ =>
        require (valueOf 8 [c, d, e] ≤ 0o377)
        return unitPart
    else groupReference (valueOf 10 [c, d])

/-- An escape outside a character set. -/
def takeEscape (c : Char) : Reader Part := do
  if "AbBZ".toList.contains c then return anchorPart
  else if isClassEscape c then return unitPart
  else if c == '0' then
    let _ ← takeChars isOctal 2
    return unitPart
  else if c.isDigit then takeDigitEscape c
  else
    let _ ← takeEscapedCode c
    return unitPart

/-- A repetition count, if digits are given. -/
def count? (digits : List Char) : Reader (Option Nat) := do
  if digits.isEmpty then return none
  else if Text.maxDigits < digits.length then throw (.tooManyDigits digits.length)
  else
    let n := valueOf 10 digits
    if maxRepeat ≤ n then throw .repetitionTooLarge
    return some n

/-- The counts of a quantifier in braces, after the opening one; nothing when the brace stands for
itself, and then nothing after it is read. -/
def takeCounts : Reader (Option (Nat × Nat)) := do
  let start := (← get).rest
  if (← look) == some (.char '\x7d') then return none
  let limit := start.length
  let low ← takeChars Char.isDigit limit
  let comma ← accept ','
  let high ← if comma then takeChars Char.isDigit limit else pure low
  if ← accept '\x7d' then
    let least := (← count? low).getD 0
    let greatest ← count? high
    require (greatest.all fun n ↦ least ≤ n)
    return some (least, greatest.getD maxRepeat)
  else
    moveTo start
    return none

/-- The counts of a quantifier that begins with a character; nothing when the character stands for
itself. -/
def takeQuantifier (c : Char) : Reader (Option (Nat × Nat)) := do
  if c == '?' then return some (0, 1)
  else if c == '*' then return some (0, maxRepeat)
  else if c == '+' then return some (1, maxRepeat)
  else takeCounts

/-- Applies a quantifier to the last part, the parts being kept in reverse. -/
def repeatLast (counts : Nat × Nat) : List Part → Reader (List Part)
  | [] => malformed
  | part :: before => do
    require (part.kind == .other)
    unless ← accept '?' do
      let _ ← accept '+'
    modify fun s ↦ { s with repeats := true }
    return ⟨.repetition, part.width.repeat counts.1 counts.2⟩ :: before

/-- Opens a group, with its name if it has one, and gives its number. -/
def openGroup (name : Option String) : Reader Nat := do
  let group := (← get).groups.length + 1
  match name with
  | none => modify fun s ↦ { s with groups := s.groups ++ [none] }
  | some name =>
    require (((← get).names.lookup name).isNone)
    modify fun s ↦ { s with
      groups := s.groups ++ [none]
      names := (name, group) :: s.names }
  return group

/-- Reads what stands in one more group. -/
def nested {α : Type} (content : Reader α) : Reader α := do
  if maxNesting ≤ (← get).depth then throw .tooDeep
  modify fun s ↦ { s with depth := s.depth + 1 }
  let a ← content
  modify fun s ↦ { s with depth := s.depth - 1 }
  return a

/-- Closes a group. -/
def closeGroup (group : Nat) (width : Width) : Reader Unit :=
  modify fun s ↦ { s with groups := s.groups.set (group - 1) (some width) }

/-- The letters of inline flags. -/
def isFlag (c : Char) : Bool :=
  "iLmsxatu".toList.contains c

/-- Flags that choose the kind of matching. -/
def isTypeFlag (c : Char) : Bool :=
  c == 'a' || c == 'L' || c == 'u'

/-- The flags to turn on, from a first one to the character that ends them. -/
def takeFlagsOn : (fuel : Nat) → (on : List Char) → Char → Reader (List Char × Char)
  | 0, _, _ => malformed
  | fuel + 1, on, flag => do
    require (flag != 'L')
    let on := flag :: on
    require (!(isTypeFlag flag && on.any fun other ↦ isTypeFlag other && other != flag))
    match ← take with
    | some (.char c) =>
      if c == ')' || c == '-' || c == ':' then return (on, c)
      else if isFlag c then takeFlagsOn fuel on c
      else malformed
    | _ => malformed

/-- The flags to turn off, up to the colon. -/
def takeFlagsOff : (fuel : Nat) → (off : List Char) → Reader (List Char)
  | 0, _ => malformed
  | fuel + 1, off => do
    match ← take with
    | some (.char c) =>
      if c == ':' && !off.isEmpty then return off
      else
        require (isFlag c && !isTypeFlag c)
        takeFlagsOff fuel (c :: off)
    | _ => malformed

/-- The inline flags that begin with a character. Flags for a group are given as those to turn on
and those to turn off; global flags are noted and nothing is given. -/
def takeFlags (c : Char) : Reader (Option (List Char × List Char)) := do
  let fuel := (← get).rest.length + 1
  let (on, stop) ← if c == '-' then pure ([], '-') else takeFlagsOn fuel [] c
  if stop == ')' then
    modify fun s ↦ { s with flags := on ++ s.flags }
    return none
  require (!on.contains 't')
  let off ← if stop == '-' then takeFlagsOff fuel [] else pure []
  require (!off.contains 't' && !on.any off.contains)
  return some (on, off)

/-- What a group that begins with a question mark turns out to be. -/
inductive Opening where
  | comment
  | globalFlags
  | reference (part : Part)
  | look (behind : Bool)
  | condition
  | group (captures : Bool) (name : Option String) (on off : List Char)

/-- Reads a group's name, which must be an identifier. -/
def takeGroupName (terminator : Char) : Reader String := do
  let name ← takeName terminator
  require (Text.isIdentifier name)
  return name

/-- The group that a condition refers to, by name or by number. -/
def takeCondition : Reader Unit := do
  let name ← takeName ')'
  let group ←
    if Text.isIdentifier name then
      match (← get).names.lookup name with
      | none => malformed
      | some group => pure group
    else
      match Text.readInteger? name with
      | none => malformed
      | some n =>
        require (0 < n && n < maxGroups)
        modify fun s ↦ { s with conditions := n.toNat :: s.conditions }
        pure n.toNat
  checkLookbehind group

/-- The opening of a group after its parenthesis and question mark. -/
def takeOpening : Reader Opening := do
  match ← take with
  | some (.char 'P') =>
    if ← accept '<' then return .group true (some (← takeGroupName '>')) [] []
    else if ← accept '=' then
      match (← get).names.lookup (← takeGroupName ')') with
      | none => malformed
      | some group => return .reference (← groupReference group)
    else malformed
  | some (.char ':') => return .group false none [] []
  | some (.char '>') => return .group false none [] []
  | some (.char '#') =>
    require (← takeUntil ')').isSome
    return .comment
  | some (.char '=') => return .look false
  | some (.char '!') => return .look false
  | some (.char '<') =>
    match ← take with
    | some (.char '=') => return .look true
    | some (.char '!') => return .look true
    | _ => malformed
  | some (.char '(') =>
    takeCondition
    return .condition
  | some (.char c) =>
    require (isFlag c || c == '-')
    match ← takeFlags c with
    | none => return .globalFlags
    | some (on, off) => return .group false none on off
  | _ => malformed

/-- White space that the verbose flag lets a pattern have. -/
def isVerboseSpace (c : Char) : Bool :=
  c == ' ' || (9 ≤ c.toNat && c.toNat ≤ 13)

/-- Whether the global flags include the verbose one. -/
def globalVerbose : Reader Bool := do
  return (← get).flags.contains 'x'

mutual
/-- Alternatives up to a closing parenthesis or the end, with their common width. -/
def takeChoice : (fuel : Nat) → (verbose top first : Bool) → Reader (List Width)
  | 0, _, _, _ => malformed
  | fuel + 1, verbose, top, first => do
    let width ← takeSequence fuel verbose (top && first) []
    if ← accept '|' then
      let verbose ← if top then globalVerbose else pure verbose
      return width :: (← takeChoice fuel verbose top false)
    else return [width]
termination_by structural fuel => fuel
/-- Parts up to a bar, a closing parenthesis or the end, after the given ones in reverse. -/
def takeSequence : (fuel : Nat) → (verbose first : Bool) → List Part → Reader Width
  | 0, _, _, _ => malformed
  | fuel + 1, verbose, first, parts => do
    match ← look with
    | none => return Width.sum (parts.map Part.width)
    | some .dangling => malformed
    | some (.escape c) =>
      let _ ← take
      takeSequence fuel verbose first ((← takeEscape c) :: parts)
    | some (.char c) =>
      if c == '|' || c == ')' then return Width.sum (parts.map Part.width)
      else
        let _ ← take
        if verbose && isVerboseSpace c then takeSequence fuel verbose first parts
        else if verbose && c == '#' then
          let _ ← takeUntil '\n'
          takeSequence fuel verbose first parts
        else if c == '[' then
          let _ ← accept '^'
          takeMembers ((← get).rest.length + 1) true
          takeSequence fuel verbose first (unitPart :: parts)
        else if c == '*' || c == '+' || c == '?' || c == '\x7b' then
          match ← takeQuantifier c with
          | none => takeSequence fuel verbose first (unitPart :: parts)
          | some counts => takeSequence fuel verbose first (← repeatLast counts parts)
        else if c == '^' || c == '$' then takeSequence fuel verbose first (anchorPart :: parts)
        else if c == '(' then
          if ← accept '?' then
            match ← takeOpening with
            | .comment => takeSequence fuel verbose first parts
            | .globalFlags =>
              require (first && parts.isEmpty)
              takeSequence fuel (← globalVerbose) first parts
            | .reference part => takeSequence fuel verbose first (part :: parts)
            | .look behind =>
              takeLook fuel verbose behind
              takeSequence fuel verbose first (⟨.other, ⟨0, 0⟩⟩ :: parts)
            | .condition =>
              let width ← takeBranches fuel verbose
              takeSequence fuel verbose first (⟨.other, width⟩ :: parts)
            | .group captures name on off =>
              let inner := (verbose || on.contains 'x') && !off.contains 'x'
              let width ← takeGroup fuel inner captures name
              takeSequence fuel verbose first (⟨.other, width⟩ :: parts)
          else
            let width ← takeGroup fuel verbose true none
            takeSequence fuel verbose first (⟨.other, width⟩ :: parts)
        else takeSequence fuel verbose first (unitPart :: parts)
termination_by structural fuel => fuel
/-- The content of a group and its closing parenthesis. -/
def takeGroup : (fuel : Nat) → (verbose captures : Bool) → Option String → Reader Width
  | 0, _, _, _ => malformed
  | fuel + 1, verbose, captures, name => do
    let group ← if captures then some <$> openGroup name else pure none
    let width := Width.choice (← nested (takeChoice fuel verbose false true))
    expect ')'
    if let some group := group then closeGroup group width
    return width
termination_by structural fuel => fuel
/-- The content of an assertion and its closing parenthesis. -/
def takeLook : (fuel : Nat) → (verbose behind : Bool) → Reader Unit
  | 0, _, _ => malformed
  | fuel + 1, verbose, behind => do
    let outer := (← get).lookbehindFrom
    if behind && outer.isNone then
      modify fun s ↦ { s with lookbehindFrom := some (s.groups.length + 1) }
    let width := Width.choice (← nested (takeChoice fuel verbose false true))
    if behind then modify fun s ↦ { s with lookbehindFrom := outer }
    expect ')'
    if behind then
      modify fun s ↦ { s with
        looseLookbehind := s.looseLookbehind || width.low != width.high
        wideLookbehind := s.wideLookbehind || maxLookbehind ≤ width.low }
termination_by structural fuel => fuel
/-- The one or two branches of a condition and the closing parenthesis. -/
def takeBranches : (fuel : Nat) → (verbose : Bool) → Reader Width
  | 0, _ => malformed
  | fuel + 1, verbose => do
    let yes ← takeSequence fuel verbose false []
    let width ←
      if ← accept '|' then
        let no ← takeSequence fuel verbose false []
        require ((← look) != some (.char '|'))
        pure (Width.choice [yes, no])
      else pure ⟨0, yes.high⟩
    expect ')'
    return width
termination_by structural fuel => fuel
end

/-- Reads a whole pattern. -/
def readAll : Reader Unit := do
  let start ← get
  moveTo start.rest
  let _ ← takeChoice (2 * start.rest.length + 2) false true true
  let s ← get
  if s.flags.contains 'a' && s.flags.contains 'u' then throw .contradictoryFlags
  require s.rest.isEmpty
  require (s.conditions.all fun group ↦ group ≤ s.groups.length)
  require (!(s.flags.contains 't' && s.repeats))
  require (!s.looseLookbehind)
  if s.wideLookbehind then throw .lookbehindTooWide

/-- The fault of a text as a pattern, if it has one. -/
def fault? (text : String) : Option Fault :=
  match readAll.run { rest := tokens text.toList } with
  | .ok _ => none
  | .error fault => some fault

end ApiCompiler.Pattern
