import ApiCompiler.Failure

/-!
# Kinds of failure

The kind under which a failure is reported, and the form in which it is quoted as the cause of
another one: its kind with its arguments as literals.
-/

namespace ApiCompiler

/-- The kind of a scalar fault. -/
def Yaml.ValueFault.kind : Yaml.ValueFault → String
  | integer .. | tooManyDigits _ | float _ | calendar _ | codePoint => "ValueError"
  | floatTooLarge | codePointTooLarge => "OverflowError"
  | truth _ => "KeyError"
  | timestamp => "AttributeError"
  | timestampOfMapping => "TypeError"
  | empty => "IndexError"
  | endless => "RecursionError"

/-- The kind of a fault of a host name. -/
def HostName.Fault.kind : HostName.Fault → String
  | notPermitted .. => "InvalidCodepoint"
  | neighbour .. => "InvalidCodepointContext"
  | unknownDirection .. | firstDirection _ | directionInRight _ | directionInLeft _
  | mixedNumbers | lastDirection => "IDNABidiError"
  | _ => "IDNAError"

/-- The kind of a fault of a character set. -/
def CharsetFault.kind : CharsetFault → String
  | noOrderMark _ | notReplacing | undefinedSet | remainsTooLong => "UnicodeError"
  | notText => "AssertionError"
  | notBytes => "TypeError"
  | notAscii .. => "UnicodeDecodeError"
  | nullInName => "ValueError"

/-- The kind of a pattern fault. -/
def Pattern.Fault.kind : Pattern.Fault → String
  | malformed => "error"
  | repetitionTooLarge | codePointTooLarge => "OverflowError"
  | tooManyDigits _ | contradictoryFlags => "ValueError"
  | lookbehindTooWide => "RuntimeError"
  | tooDeep => "RecursionError"

/-- The kind of a system's refusal, by its number. -/
def Files.Refusal.kind (refusal : Files.Refusal) : String :=
  match refusal.number with
  | 1 | 13 => "PermissionError"
  | 3 => "ProcessLookupError"
  | 4 => "InterruptedError"
  | 10 => "ChildProcessError"
  | 11 | 114 | 115 => "BlockingIOError"
  | 17 => "FileExistsError"
  | 20 => "NotADirectoryError"
  | 21 => "IsADirectoryError"
  | 32 | 108 => "BrokenPipeError"
  | 103 => "ConnectionAbortedError"
  | 104 => "ConnectionResetError"
  | 110 => "TimeoutError"
  | 111 => "ConnectionRefusedError"
  | _ => "OSError"

/-- The kind of a file fault. -/
def Files.FaultKind.kind : Files.FaultKind → String
  | noEntry => "FileNotFoundError"
  | .exists => "FileExistsError"
  | notDirectory => "NotADirectoryError"
  | isDirectory => "IsADirectoryError"
  | busy | nameTooLong => "OSError"
  | refused refusal => refusal.kind

namespace Failure

/-- The kind of a failure. -/
def kind : Failure → String
  | invalidSource .. => "InvalidSourceURL"
  | retrieval .. => "SourceRetrievalError"
  | unsupportedUrl (.label fault) => fault.kind
  | unsupportedUrl (.unsplittable _) => "ValueError"
  | unsupportedUrl (.encoding _) => "UnicodeEncodeError"
  | unsupportedUrl _ => "InvalidURL"
  | headerNotText _ => "TypeError"
  | encoding _ => "UnicodeEncodeError"
  | charset fault => fault.kind
  | undecodable .. => "UnicodeDecodeError"
  | scalar fault => fault.kind
  | endless _ => "RecursionError"
  | tooLong => "ValueError"
  | visit _ => "RuntimeError"
  | fixedComponents _ | unhashable _ | noSetting _ => "TypeError"
  | pathNotText (.bytes _) => "TypeError"
  | pathNotText _ => "AttributeError"
  | pattern fault => fault.kind
  | invalidOverride .. | overrideLeavesOut .. => "ValueError"
  | overrideShape (.pairLength ..) => "ValueError"
  | overrideShape _ => "TypeError"
  | missingKey _ => "KeyError"
  | unnamedOutput _ | nullInPath _ => "ValueError"
  | file fault => fault.kind.kind

/-- The arguments of an encoding fault in its quoted form. -/
def encodingArguments (fault : Text.EncodingFault) : String :=
  Text.literal fault.encoding.name ++ ", " ++ Text.literal fault.text ++ ", " ++
    toString fault.start ++ ", " ++ toString fault.stop ++ ", " ++
    Text.literal fault.encoding.reason

/-- The arguments of a failure in its quoted form. -/
def quotedArguments : Failure → String
  | undecodable content start stop reason =>
    "'utf-8', " ++ String.ofList (bytesLiteralChars content) ++ ", " ++ toString start ++ ", " ++
      toString stop ++ ", " ++ Text.literal reason
  | encoding fault | unsupportedUrl (.encoding fault) => encodingArguments fault
  | file fault => toString fault.kind.number ++ ", " ++ Text.literal fault.kind.text
  | missingKey key => Text.literal key
  | scalar (.truth text) => Text.literal text
  | failure => Text.literal failure.message

/-- A failure in its quoted form. -/
def quoted (failure : Failure) : String :=
  failure.kind ++ "(" ++ failure.quotedArguments ++ ")"

end Failure

end ApiCompiler
