import ApiCompiler.HostName
import ApiCompiler.Text.Case
import ApiCompiler.Text.Encoding
import ApiCompiler.Text.Number
import ApiCompiler.Url.Percent
import ApiCompiler.Url
import ApiCompiler.Value.Literal

/-!
# Targets of requests

The address of a request in normal form: scheme and host in lower case, no port that the scheme
implies, dots resolved in the path, and characters that a part cannot hold escaped. Some addresses
that can be split into parts have no such form.
-/

namespace ApiCompiler.Url

/-- Why no request can be made to an address. -/
inductive Unsupported where
  | tooLong
  | control (char : Char) (index : Nat)
  | octets (host : String)
  | address (host : String)
  | name (host : String)
  | label (fault : HostName.Fault)
  | unsplittable (fault : Fault)
  | port (text : String)
  | pathAfterAuthority
  | doubleSlash
  | leadingColon
  | encoding (fault : Text.EncodingFault)
  deriving DecidableEq

/-- The text of a reason. -/
def Unsupported.message : Unsupported → String
  | tooLong => "URL too long"
  | control char index =>
    "Invalid non-printable ASCII character in URL, " ++ Text.literal (String.singleton char) ++
      " at position " ++ toString index ++ "."
  | octets host => "Invalid IPv4 address: " ++ Text.literal host
  | address host => "Invalid IPv6 address: " ++ Text.literal host
  | name host => "Invalid IDNA hostname: " ++ Text.literal host
  | label fault => fault.message
  | unsplittable fault => fault.message
  | port text => "Invalid port: " ++ Text.literal text
  | pathAfterAuthority => "For absolute URLs, path must be empty or begin with '/'"
  | doubleSlash => "Relative URLs cannot have a path starting with '//'"
  | leadingColon => "Relative URLs cannot have a path starting with ':'"
  | encoding fault => fault.message

/-- An address of a request. -/
structure Target where
  /-- The scheme. -/
  scheme : String := ""
  /-- The name and password in front of the host. -/
  userinfo : String := ""
  /-- The host, without brackets. -/
  host : String := ""
  /-- The port, unless the scheme implies it. -/
  port : Option Int := none
  /-- The path. -/
  path : String := ""
  /-- The query, if there is a question mark. -/
  query : Option String := none
  /-- The fragment, if there is a number sign. -/
  fragment : Option String := none
  deriving DecidableEq

/-- A character that needs no escape in any part. -/
def isUnreserved (c : Char) : Bool :=
  c.isAlphanum || c == '-' || c == '.' || c == '_' || c == '~'

/-- A printable ASCII character that is not among some. -/
def isPrintableBut (others : String) (c : Char) : Bool :=
  0x20 ≤ c.toNat && c.toNat < 0x7f && !others.toList.contains c

/-- A character that a fragment may hold. -/
def isFragmentSafe : Char → Bool :=
  isPrintableBut " \"<>`"

/-- A character that a query may hold. -/
def isQuerySafe : Char → Bool :=
  isPrintableBut " \"#<>"

/-- A character that a path may hold. -/
def isPathSafe : Char → Bool :=
  isPrintableBut " \"#<>?`\x7b\x7d"

/-- A character that a name and password may hold. -/
def isUserinfoSafe (c : Char) : Bool :=
  isPrintableBut " \"#<>?`\x7b\x7d/;=@[\\]^|" c

/-- A character that a host may hold. -/
def isHostSafe (c : Char) : Bool :=
  isUnreserved c || "!$&'()*+,;=\"`\x7b\x7d%|\\".toList.contains c

/-- Whether a host is four numbers between points. -/
def isFourNumbers (host : List Char) : Bool :=
  let numbers := Text.splitOn '.' host
  numbers.length == 4 && numbers.all fun number ↦ !number.isEmpty && number.all Char.isDigit

/-- A host in normal form. -/
def normalHost (host : List Char) : Except Unsupported String :=
  if host.isEmpty then .ok ""
  else if isFourNumbers host then
    if isFourOctets host then .ok (String.ofList host) else .error (.octets (String.ofList host))
  else if host.head? == some '[' && host.getLast? == some ']' then
    let address := host.tail.dropLast
    if isSixAddress address then .ok (String.ofList address)
    else .error (.address (String.ofList host))
  else if host.all fun c ↦ c.toNat < 128 then
    .ok (String.ofList (escape isHostSafe (host.map Char.toLower)))
  else
    match HostName.encode (Text.lower host) with
    | .ok name => .ok (String.ofList name)
    | .error _ => .error (.name (String.ofList host))

/-- The ports that schemes imply. -/
def impliedPort? : String → Option Int
  | "ftp" => some 21
  | "http" | "ws" => some 80
  | "https" | "wss" => some 443
  | _ => none

/-- A port in normal form. The scheme is the one that was written. -/
def normalPort (scheme port : String) : Except Unsupported (Option Int) :=
  if port == "" then .ok none
  else
    match Text.readInteger? port with
    | some n => .ok (if impliedPort? scheme = some n then none else some n)
    | none => .error (.port port)

/-- The segments of a path with those for the same and for the parent place resolved. -/
def resolveDots (segments : List (List Char)) : List (List Char) :=
  (segments.foldl
    (fun done segment ↦
      if segment == ['.'] then done
      else if segment == ['.', '.'] then
        (if done.isEmpty || done == [[]] then done else done.tail)
      else segment :: done)
    []).reverse

/-- Segments with slashes between them. -/
def joinSegments (segments : List (List Char)) : List Char :=
  joinChars ['/'] segments

/-- A path without segments for the same and for the parent place. -/
def normalPath (path : List Char) : List Char :=
  joinSegments (resolveDots (Text.splitOn '/' path))

/-- What is wrong with a path in an address. -/
def pathFault? (hasScheme hasAuthority : Bool) (path : List Char) : Option Unsupported :=
  if hasAuthority then
    if path.isEmpty || path.head? == some '/' then none else some .pathAfterAuthority
  else if hasScheme then none
  else if ['/', '/'].isPrefixOf path then some .doubleSlash
  else if path.head? == some ':' then some .leadingColon
  else none

/-- The host and the port of an authority. A host in brackets extends to the last bracket. -/
def splitPort (text : List Char) : List Char × List Char :=
  let (host, rest) :=
    match Text.cutAtLast ']' text with
    | (some inside, after) =>
      if text.head? == some '[' then (inside ++ [']'], after)
      else (text.takeWhile (· != ':'), text.dropWhile (· != ':'))
    | (none, _) => (text.takeWhile (· != ':'), text.dropWhile (· != ':'))
  (host, if rest.head? == some ':' then rest.tail else rest)

/-- The scheme of an address, and the rest. -/
def targetScheme (text : List Char) : List Char × List Char :=
  match Text.cutAt ':' text with
  | (scheme, some rest) =>
    if scheme.isEmpty || (scheme.head?.any Char.isAlpha &&
        scheme.all fun c ↦ c.isAlphanum || c == '+' || c == '.' || c == '-') then
      (scheme, rest)
    else ([], text)
  | (_, none) => ([], text)

/-- The most characters of an address. -/
def maxLength : Nat := 65536

/-- A control character of ASCII. -/
def isControl (c : Char) : Bool :=
  c.toNat < 32 || c.toNat == 127

/-- What forbids an address before it is split. -/
def textFault? (text : List Char) : Option Unsupported :=
  if maxLength < text.length then some .tooLong
  else
    match text.findIdx? isControl with
    | some i => some (.control (text[i]?.getD ' ') i)
    | none => none

/-- A part in which the characters outside a class are escaped, each on its own. -/
def normalPart (isSafe : Char → Bool) (part : List Char) : Except Unsupported (List Char) :=
  match part.findSome? fun c ↦ Text.encodingFault? .utf8 (String.singleton c) with
  | some fault => .error (.encoding fault)
  | none => .ok (escape isSafe part)

/-- A part in normal form, if there is one. -/
def normalPart? (isSafe : Char → Bool) : Option (List Char) → Except Unsupported (Option String)
  | none => .ok none
  | some part => (normalPart isSafe part).map fun part ↦ some (String.ofList part)

namespace Target

/-- The target with an address. -/
def ofText (text : String) : Except Unsupported Target := do
  if let some fault := textFault? text.toList then throw fault
  let (scheme, rest) := targetScheme text.toList
  let ends (c : Char) : Bool := c == '/' || c == '?' || c == '#'
  let (authority, rest) :=
    match rest with
    | '/' :: '/' :: rest => (rest.takeWhile fun c ↦ !ends c, rest.dropWhile fun c ↦ !ends c)
    | rest => ([], rest)
  let (rest, fragment) := Text.cutAt '#' rest
  let (path, query) := Text.cutAt '?' rest
  let (userinfo, hostAndPort) := Text.cutAtLast '@' authority
  let (host, port) := splitPort hostAndPort
  let userinfo ← normalPart isUserinfoSafe (userinfo.getD [])
  let host ← normalHost host
  let port ← normalPort (String.ofList scheme) (String.ofList port)
  let hasScheme := !scheme.isEmpty
  let hasAuthority := !userinfo.isEmpty || host != "" || port.isSome
  if let some fault := pathFault? hasScheme hasAuthority path then throw fault
  let path := if hasScheme || hasAuthority then normalPath path else path
  return {
    scheme := String.ofList (scheme.map Char.toLower)
    userinfo := String.ofList userinfo
    host
    port
    path := String.ofList (← normalPart isPathSafe path)
    query := ← normalPart? isQuerySafe query
    fragment := ← normalPart? isFragmentSafe fragment }

/-- The authority of a target. -/
def authority (target : Target) : String :=
  (if target.userinfo == "" then "" else target.userinfo ++ "@") ++
    (if target.host.toList.contains ':' then "[" ++ target.host ++ "]" else target.host) ++
    (target.port.elim "" fun port ↦ ":" ++ intLiteral port)

/-- The address of a target. -/
def text (target : Target) : String :=
  (if target.scheme == "" then "" else target.scheme ++ ":") ++
    (if target.authority == "" then "" else "//" ++ target.authority) ++ target.path ++
    (target.query.elim "" ("?" ++ ·)) ++ (target.fragment.elim "" ("#" ++ ·))

/-- Whether a target names a scheme and a host. -/
def isAbsolute (target : Target) : Bool :=
  target.scheme != "" && target.host != ""

/-- The host of a target in the characters that it stands for. -/
def decodedHost (target : Target) : Except Unsupported String :=
  if HostName.encodedMark.isPrefixOf target.host.toList then
    match HostName.decode target.host.toList with
    | .ok host => .ok (String.ofList host)
    | .error fault => .error (.label fault)
  else .ok target.host

/-- A target without a host, with the host of another one. -/
def withHostOf (target other : Target) : Except Unsupported Target := do
  let target := { target with host := ← other.decodedHost }
  if let some fault := pathFault? (target.scheme != "") (target.authority != "")
    target.path.toList then throw fault
  ofText target.text

/-- A part that is not empty. -/
def filled? : Option String → Option String
  | some "" => none
  | part => part

/-- A target with the fragment of another one, unless it has one of its own. -/
def withFragmentOf (target other : Target) : Except Unsupported Target :=
  let fragment := (unescape (other.fragment.getD "")).toList
  if fragment.isEmpty || (filled? target.fragment).isSome then .ok target
  else
    match textFault? fragment with
    | some fault => .error fault
    | none => ofText { target with fragment := some (String.ofList fragment) }.text

/-- The target that a relative one leads to from a base. -/
def join (base relative : Target) : Except Unsupported Target :=
  match resolveText base.text relative.text with
  | .ok text => ofText text
  | .error fault => .error (.unsplittable fault)

/-- The target of a request to an address; an address without a host is a path alone. -/
def ofRequest (text : String) : Except Unsupported Target := do
  let target ← ofText text
  if target.isAbsolute then return target
  else
    let path := '/' :: target.path.toList.dropWhile (· == '/')
    return { path := String.ofList path, query := target.query }

end Target

end ApiCompiler.Url
