import ApiCompiler.Text.Literal
import ApiCompiler.Text.Split

/-!
# Addresses

An address has a scheme, an authority, a path, a query and a fragment. Splitting it passes over
blanks and controls in front, and over tabs and line ends anywhere; it fails on an authority whose
brackets do not hold a numeric host, and on one that would mean another authority once its
compatibility characters are replaced. A numeric host is a number of the fourth version of the
internet protocol, four decimal octets between points, or of the sixth, eight hexadecimal groups
between colons of which one run may be left out.
-/

namespace ApiCompiler.Url

/-! ## Faults -/

/-- Why an address cannot be split. -/
inductive Fault where
  | brackets
  | notAnAddress (host : String)
  | oldAddress
  | futureAddress
  | unstableAuthority (authority : String)
  deriving DecidableEq

/-- The text of a fault. -/
def Fault.message : Fault → String
  | brackets => "Invalid IPv6 URL"
  | notAnAddress host =>
    Text.literal host ++ " does not appear to be an IPv4 or IPv6 address"
  | oldAddress => "An IPv4 address cannot be in brackets"
  | futureAddress => "IPvFuture address is invalid"
  | unstableAuthority authority =>
    "netloc '" ++ authority ++ "' contains invalid characters under NFKC normalization"

/-! ## Numeric hosts -/

/-- A hexadecimal digit. -/
def isHexDigit (c : Char) : Bool :=
  c.isDigit || ('a' ≤ c && c ≤ 'f') || ('A' ≤ c && c ≤ 'F')

/-- A decimal octet: at most 255, without leading zeros. -/
def isOctet (text : List Char) : Bool :=
  !text.isEmpty && text.all Char.isDigit && text.length ≤ 3 &&
    (text == ['0'] || text.head? != some '0') &&
    text.foldl (fun n c ↦ n * 10 + (c.toNat - 48)) 0 ≤ 255

/-- An address of version four. -/
def isFourOctets (text : List Char) : Bool :=
  let octets := Text.splitOn '.' text
  octets.length == 4 && octets.all isOctet

/-- A group of an address of version six. -/
def isGroup (text : List Char) : Bool :=
  !text.isEmpty && text.length ≤ 4 && text.all isHexDigit

/-- The groups of an address, an address of version four at the end counting as two. Nothing when
that is malformed. -/
def groups? (text : List Char) : Option (List (List Char)) :=
  let parts := Text.splitOn ':' text
  match parts.getLast? with
  | some last =>
    if last.contains '.' then
      if isFourOctets last && 3 ≤ parts.length then some (parts.dropLast ++ [['0'], ['0']])
      else none
    else some parts
  | none => none

/-- The positions of empty groups inside an address. -/
def gaps (groups : List (List Char)) : List Nat :=
  (List.range groups.length).filter fun i ↦
    0 < i && i + 1 < groups.length && (groups[i]?.getD []).isEmpty

/-- Whether groups on one side of a gap are well formed; the side may be empty at the edge. -/
def isSide (groups : List (List Char)) : Bool :=
  groups == [[]] || groups.all isGroup

/-- The number of groups on one side of a gap. -/
def sideLength (groups : List (List Char)) : Nat :=
  if groups == [[]] then 0 else groups.length

/-- Whether groups form an address of version six. -/
def formAddress (groups : List (List Char)) : Bool :=
  3 ≤ groups.length && groups.length ≤ 9 &&
    match gaps groups with
    | [] => groups.length == 8 && groups.all isGroup
    | [gap] =>
      let left := groups.take gap
      let right := groups.drop (gap + 1)
      isSide left && isSide right && sideLength left + sideLength right ≤ 7
    | _ => false

/-- An address of version six, which may name a zone after a percent sign. -/
def isSixAddress (text : List Char) : Bool :=
  let (address, zone) := Text.cutAt '%' text
  (match zone with
    | none => true
    | some zone => !zone.isEmpty && !zone.contains '%') &&
  !address.contains '/' &&
  match groups? address with
  | some groups => formAddress groups
  | none => false

end ApiCompiler.Url

namespace ApiCompiler

/-- The parts of an address. -/
structure Url where
  /-- The scheme, in lower case. -/
  scheme : String
  /-- The authority. -/
  authority : String
  /-- The path. -/
  path : String
  /-- The query, without its question mark. -/
  query : String
  /-- The fragment, without its sign. -/
  fragment : String
  deriving DecidableEq

namespace Url

/-- A character that a scheme may have after its first letter. -/
def isSchemeChar (c : Char) : Bool :=
  c.isAlphanum || c == '+' || c == '-' || c == '.'

/-- A character that ends an authority. -/
def endsAuthority (c : Char) : Bool :=
  c == '/' || c == '?' || c == '#'

/-- Compatibility characters that stand for a text with a delimiter in it. -/
def isUnstable (c : Char) : Bool :=
  let n := c.toNat
  (8263 ≤ n && n ≤ 8265) || n == 8448 || n == 8449 || n == 8453 || n == 8454 || n == 10868 ||
    n == 65043 || n == 65046 || n == 65109 || n == 65110 || n == 65119 || n == 65131 ||
    n == 65283 || n == 65295 || n == 65306 || n == 65311 || n == 65312

/-- The text that is split: without blanks and controls in front, tabs and line ends. -/
def cleaned (text : List Char) : List Char :=
  (text.dropWhile fun c ↦ c.toNat ≤ 32).filter fun c ↦ !(c == '\t' || c == '\n' || c == '\r')

/-- The scheme of an address and the rest; a text without one has an empty scheme. -/
def splitScheme (text : List Char) : List Char × List Char :=
  match Text.cutAt ':' text with
  | (scheme, some rest) =>
    if scheme.head?.any Char.isAlpha && scheme.all isSchemeChar then
      (scheme.map Char.toLower, rest)
    else ([], text)
  | (_, none) => ([], text)

/-- An address of a version to come: its version and its text. -/
def isFutureAddress (host : List Char) : Bool :=
  match Text.cutAt '.' host.tail with
  | (version, some rest) => !version.isEmpty && version.all isHexDigit && !rest.isEmpty
  | (_, none) => false

/-- What is wrong with a host in brackets. -/
def hostFault? (host : List Char) : Option Fault :=
  if host.head? == some 'v' then
    if isFutureAddress host then none else some .futureAddress
  else if isFourOctets host then some .oldAddress
  else if isSixAddress host then none
  else some (.notAnAddress (String.ofList host))

/-- What is wrong with a host and a port, one of which may have brackets. Nothing stands in front of
brackets, and nothing but a port behind them. -/
def bracketsFault? (text : List Char) : Option Fault :=
  match Text.cutAt '[' text with
  | (before, some rest) =>
    let (host, port) := Text.cutAt ']' rest
    if !before.isEmpty || port.any fun port ↦ port.head?.any (· != ':') then some .brackets
    else hostFault? host
  | (_, none) => hostFault? (Text.cutAt ':' text).1

/-- What is wrong with an authority. -/
def authorityFault? (authority : List Char) : Option Fault :=
  if authority.contains '[' != authority.contains ']' then some .brackets
  else if authority.contains '[' then bracketsFault? (Text.cutAtLast '@' authority).2
  else none

/-- The authority of an address after its scheme, and the rest. -/
def splitAuthority : List Char → List Char × List Char
  | '/' :: '/' :: rest =>
    (rest.takeWhile fun c ↦ !endsAuthority c, rest.dropWhile fun c ↦ !endsAuthority c)
  | text => ([], text)

/-- The parts of an address. -/
def split (text : String) : Except Fault Url :=
  let (scheme, rest) := splitScheme (cleaned text.toList)
  let (authority, rest) := splitAuthority rest
  match authorityFault? authority with
  | some fault => .error fault
  | none =>
    let (rest, fragment) := Text.cutAt '#' rest
    let (path, query) := Text.cutAt '?' rest
    if authority.any isUnstable then
      .error (.unstableAuthority (String.ofList authority))
    else
      .ok ⟨String.ofList scheme, String.ofList authority, String.ofList path,
        String.ofList (query.getD []), String.ofList (fragment.getD [])⟩

/-!
## Relative addresses

An address may be given relative to another one, as a path from its place, a query or a fragment. A
path may end in parameters after a semicolon, which are no part of its last segment.
-/

/-- Schemes whose addresses may be given relative to another one. -/
def relativeSchemes : List String :=
  ["", "ftp", "http", "gopher", "nntp", "imap", "wais", "file", "https", "shttp", "mms", "prospero",
    "rtsp", "rtsps", "rtspu", "sftp", "svn", "svn+ssh", "ws", "wss"]

/-- Schemes whose addresses have an authority. -/
def authoritySchemes : List String :=
  ["", "ftp", "http", "gopher", "nntp", "telnet", "imap", "wais", "file", "mms", "https", "shttp",
    "snews", "prospero", "rtsp", "rtsps", "rtspu", "rsync", "svn", "svn+ssh", "sftp", "nfs", "git",
    "git+ssh", "ws", "wss"]

/-- Schemes whose paths may end in parameters. -/
def parameterSchemes : List String :=
  ["", "ftp", "hdl", "prospero", "http", "imap", "https", "shttp", "rtsp", "rtsps", "rtspu", "sip",
    "sips", "mms", "sftp", "tel"]

/-- The path of an address without its parameters, and the parameters. -/
def splitParameters (url : Url) : List Char × List Char :=
  if parameterSchemes.contains url.scheme then
    let (directory, name) := Text.cutAtLast '/' url.path.toList
    let (name, parameters) := Text.cutAt ';' name
    (directory.elim name fun directory ↦ directory ++ '/' :: name, parameters.getD [])
  else (url.path.toList, [])

/-- The text of an address. -/
def text (url : Url) : String :=
  let hasAuthority := url.authority != "" ||
    (url.scheme != "" && authoritySchemes.contains url.scheme) || url.path.startsWith "//"
  let slash := if url.path != "" && !url.path.startsWith "/" then "/" else ""
  (if url.scheme == "" then "" else url.scheme ++ ":") ++
    (if hasAuthority then "//" ++ url.authority ++ slash else "") ++ url.path ++
    (if url.query == "" then "" else "?" ++ url.query) ++
    (if url.fragment == "" then "" else "#" ++ url.fragment)

/-- The segments of a path from the place of a base path. -/
def segmentsFrom (base path : List Char) : List (List Char) :=
  if path.head? == some '/' then Text.splitOn '/' path
  else
    let base := Text.splitOn '/' base
    let base := if base.getLast? == some [] then base else base.dropLast
    match base ++ Text.splitOn '/' path with
    | first :: rest =>
      first :: rest.dropLast.filter (!·.isEmpty) ++ rest.getLast?.toList
    | [] => []

/-- Segments with those for the same and for the parent place resolved. -/
def resolveSegments (segments : List (List Char)) : List (List Char) :=
  let resolved :=
    (segments.foldl
      (fun done segment ↦
        if segment == ['.'] then done
        else if segment == ['.', '.'] then done.tail
        else segment :: done)
      []).reverse
  let last := segments.getLast?.getD []
  if last == ['.'] || last == ['.', '.'] then resolved ++ [[]] else resolved

/-- The path that a relative path leads to from a base path. -/
def resolvePath (base path : List Char) : List Char :=
  let joined := List.intercalate ['/'] (resolveSegments (segmentsFrom base path))
  if joined.isEmpty then ['/'] else joined

/-- A path with its parameters. -/
def joinParameters (path parameters : List Char) : String :=
  String.ofList (if parameters.isEmpty then path else path ++ ';' :: parameters)

/-- The address that a relative one of the same scheme leads to from a base. -/
def resolve (base relative : Url) : Url :=
  let (path, parameters) := splitParameters relative
  let (basePath, baseParameters) := splitParameters base
  let hasAuthority := authoritySchemes.contains relative.scheme
  if hasAuthority && relative.authority != "" then
    { relative with path := joinParameters path parameters }
  else
    let authority := if hasAuthority then base.authority else relative.authority
    if path.isEmpty && parameters.isEmpty then
      { relative with
        authority
        path := joinParameters basePath baseParameters
        query := if relative.query == "" then base.query else relative.query }
    else
      { relative with
        authority
        path := joinParameters (resolvePath basePath path) parameters }

/-- The address that a text leads to from a base. A text with a scheme of its own stays as it is. -/
def resolveText (base text : String) : Except Fault String :=
  if base == "" then .ok text
  else if text == "" then .ok base
  else do
    let baseUrl ← split base
    let url ← split text
    let scheme := if url.scheme == "" then baseUrl.scheme else url.scheme
    if scheme != baseUrl.scheme || !relativeSchemes.contains scheme then return text
    else return (resolve baseUrl { url with scheme }).text

end Url

end ApiCompiler
