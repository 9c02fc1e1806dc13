import ApiCompiler.Files.Path
import ApiCompiler.Json
import ApiCompiler.Pattern
import ApiCompiler.Transport.Response
import ApiCompiler.Url
import ApiCompiler.Url.Target
import ApiCompiler.Value
import ApiCompiler.Value.Literal
import ApiCompiler.Yaml.Fault

/-!
# Failures

Everything that can stop an operation, as a cause. Oddities inside schemas are no failures: they
degrade to the unknown schema. `Failure.message` gives the text of each cause.
-/

namespace ApiCompiler

/-- Why a document could not be retrieved or parsed. -/
inductive RetrievalFault where
  | notParsable
  | notMapping
  | timedOut (seconds : String)
  | status (code : Int)
  | transport (reason : String)
  | file (fault : Files.Fault)
  deriving DecidableEq

/-- The reason of a retrieval fault. The details of two parsers are left to the reader. -/
def RetrievalFault.reason : RetrievalFault → String
  | notParsable => "not valid JSON or YAML"
  | notMapping => "document is not a mapping"
  | timedOut seconds => "timed out after " ++ seconds ++ "s"
  | status code => "HTTP " ++ toString code
  | transport reason => reason
  | file fault => fault.message

/-- Why the arguments of a call override cannot be read. -/
inductive OverrideFault where
  | notIterable (value : Value)
  | notPair (index : Nat)
  | pairLength (index length : Nat)

/-- Why the entries of a mapping cannot be visited to the end: it has got more or fewer entries, or
as many others. -/
inductive VisitFault where
  | grown
  | replaced
  deriving DecidableEq

/-- A setting that a run needs at some point. -/
inductive Setting where
  | apiName
  | output
  | timeout
  deriving DecidableEq

/-- Why an operation is given up. -/
inductive Failure where
  | invalidSource (url : String) (fault : Option Url.Fault)
  | retrieval (source : String) (fault : RetrievalFault)
  | unsupportedUrl (fault : Url.Unsupported)
  | headerNotText (value : Value)
  | encoding (fault : Text.EncodingFault)
  | charset (fault : CharsetFault)
  | undecodable (content : List UInt8) (start stop : Nat) (reason : String)
  | scalar (fault : Yaml.ValueFault)
  | endless (reading : Option Json.Collection)
  | tooLong
  | visit (fault : VisitFault)
  | fixedComponents (components : Value)
  | pathNotText (path : Value)
  | unhashable (value : Value)
  | pattern (fault : Pattern.Fault)
  | invalidOverride (operation : String) (argument : Value)
  | overrideLeavesOut (operation : String) (names : List String)
  | overrideShape (fault : OverrideFault)
  | missingKey (key : String)
  | unnamedOutput (path : Files.Path)
  | nullInPath (operation : String)
  | file (fault : Files.Fault)
  | noSetting (setting : Setting)

namespace Failure

/-- Names separated by commas. -/
def commaSeparated (names : List String) : String :=
  ", ".intercalate names

/-- The text for a mapping that cannot take the schemas of a document. -/
def fixedComponentsMessage : Value → String
  | .list _ => "list indices must be integers or slices, not str"
  | v => Text.literal v.typeName ++ " object does not support item assignment"

/-- The text of an override fault. -/
def overrideShapeMessage : OverrideFault → String
  | .notIterable v => Text.literal v.typeName ++ " object is not iterable"
  | .notPair index =>
    "cannot convert dictionary update sequence element #" ++ toString index ++ " to a sequence"
  | .pairLength index length =>
    "dictionary update sequence element #" ++ toString index ++ " has length " ++
      toString length ++ "; 2 is required"

/-- The text for a path that is not text. -/
def pathNotTextMessage : Value → String
  | .bytes _ => "a bytes-like object is required, not 'str'"
  | v => Text.literal v.typeName ++ " object has no attribute 'split'"

/-- The text for bytes that are not text. -/
def undecodableMessage (content : List UInt8) (start stop : Nat) (reason : String) : String :=
  if stop = start + 1 then
    "'utf-8' codec can't decode byte 0x" ++
      String.ofList (Text.hexFixed 2 ((content[start]?.getD 0).toNat)) ++ " in position " ++
      toString start ++ ": " ++ reason
  else
    "'utf-8' codec can't decode bytes in position " ++ toString start ++ "-" ++
      toString (stop - 1) ++ ": " ++ reason

/-- The text for a value that has no end or is nested too deep. -/
def endlessMessage : String :=
  "maximum recursion depth exceeded"

/-- The text for the brackets that are nested too deep. -/
def readingMessage : Option Json.Collection → String
  | none => ""
  | some .array => " while decoding a JSON array from a unicode string"
  | some .object => " while decoding a JSON object from a unicode string"

/-- The text for a setting that has no value. -/
def noSettingMessage : Setting → String
  | .apiName => "expected string or bytes-like object, got 'list'"
  | .output => "expected str, bytes or os.PathLike object, not list"
  | .timeout => "'<=' not supported between instances of 'list' and 'int'"

/-- The text of a failure. -/
def message : Failure → String
  | invalidSource url _ =>
    "Invalid swagger URL: \"" ++ url ++
      "\". Please provide a valid URL starting with http:// or https://"
  | retrieval source fault => "Could not retrieve " ++ source ++ ": " ++ fault.reason
  | unsupportedUrl fault => fault.message
  | headerNotText value => "Header value must be str or bytes, not <class " ++
    Text.literal value.typeName ++ ">"
  | encoding fault => fault.message
  | charset fault => fault.message
  | undecodable content start stop reason => undecodableMessage content start stop reason
  | scalar fault => fault.message
  | endless reading => endlessMessage ++ readingMessage reading
  | tooLong => Text.tooLongMessage
  | visit .grown => "dictionary changed size during iteration"
  | visit .replaced => "dictionary keys changed during iteration"
  | fixedComponents components => fixedComponentsMessage components
  | pathNotText path => pathNotTextMessage path
  | unhashable value => "unhashable type: " ++ Text.literal value.typeName
  | pattern fault => fault.message
  | invalidOverride operation argument =>
    "Invalid call override for " ++ operation ++ ": " ++ argument.literal
  | overrideLeavesOut operation names =>
    "Call override for " ++ operation ++ " leaves out path parameters: " ++ commaSeparated names
  | overrideShape fault => overrideShapeMessage fault
  | missingKey key => Text.literal key
  | unnamedOutput path => path.literal ++ " has an empty name"
  | nullInPath operation =>
    if operation == "open" then "embedded null byte"
    else operation ++ ": embedded null character in path"
  | file fault => fault.message
  | noSetting setting => noSettingMessage setting

end Failure

end ApiCompiler
