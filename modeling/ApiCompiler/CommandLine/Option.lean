import ApiCompiler.Config
import ApiCompiler.Text.Digits
import ApiCompiler.Text.Placeholder
import ApiCompiler.Text.Split
import ApiCompiler.Text.Wrap

/-!
# Options and help

The options of the command line with their flags. A long flag may be cut short while it is the only
one that begins so, and a value may follow it after an equals sign. Short flags may share a dash.
The usage and the help list the options.
-/

namespace ApiCompiler.CommandLine

/-- An option. -/
inductive Flag where
  | help
  | output
  | name
  | url
  | timeout
  | verbose
  deriving DecidableEq

namespace Flag

/-- The options in the order of the help. -/
def all : List Flag := [help, output, name, url, timeout, verbose]

/-- The ways to write an option. -/
def spellings : Flag → List String
  | help => ["-h", "--help"]
  | output => ["--output"]
  | name => ["--name"]
  | url => ["--url"]
  | timeout => ["--timeout"]
  | verbose => ["-v", "--verbose"]

/-- What the value of an option is called, if it has one. -/
def value? : Flag → Option String
  | output => some "OUTPUT"
  | name => some "NAME"
  | url => some "URL"
  | timeout => some "TIMEOUT"
  | help | verbose => none

/-- An option in messages. -/
def title (flag : Flag) : String :=
  "/".intercalate flag.spellings

/-- All spellings with their options. -/
def spelled : List (String × Flag) :=
  all.flatMap fun flag ↦ flag.spellings.map fun spelling ↦ (spelling, flag)

/-- The option that is written so in full. -/
def ofSpelling? (text : String) : Option Flag :=
  spelled.lookup text

end Flag

/-- A word of the command line. -/
inductive Word where
  | plain (text : String)
  | separator
  | option (flag : Flag) (spelling : String) (value : Option String)
  | unknown (text : String)
  deriving DecidableEq

/-- What is wrong with a command line. -/
inductive UsageFault where
  | ambiguous (text : String) (spellings : List String)
  | missingValue (flag : Flag)
  | ignoredValue (flag : Flag) (value : String)
  | notNumber (flag : Flag) (value : String)
  | unrecognized (texts : List String)
  deriving DecidableEq

/-- The spellings that a long flag may be short for, and the value after it. -/
def longCandidates (text : List Char) : List (Flag × String × Option String) :=
  let (start, value) := Text.cutAt '=' text
  Flag.spelled.filterMap fun (spelling, flag) ↦
    if start.isPrefixOf spelling.toList then some (flag, spelling, value.map String.ofList)
    else none

/-- The spellings that a short flag with something after it may be. -/
def shortCandidates (text : List Char) : List (Flag × String × Option String) :=
  Flag.spelled.filterMap fun (spelling, flag) ↦
    if spelling.toList == text.take 2 then
      some (flag, spelling, some (String.ofList (text.drop 2)))
    else if text.isPrefixOf spelling.toList then some (flag, spelling, none)
    else none

/-- A text without the line end at its end. -/
def dropLineEnd (text : List Char) : List Char :=
  if text.getLast? == some '\n' then text.dropLast else text

/-- A negative number: digits, or digits behind a point that may have some before it. A line end may
follow. -/
def isNegativeNumber : List Char → Bool
  | '-' :: text =>
    let text := dropLineEnd text
    let run := text.takeWhile Text.isDecimal
    match text.drop run.length with
    | [] => !run.isEmpty
    | '.' :: digits => !digits.isEmpty && digits.all Text.isDecimal
    | _ => false
  | _ => false

/-- An option that is written in full, with a value after an equals sign if there is one. -/
def exactOption? (text : String) : Option Word :=
  match Flag.ofSpelling? text with
  | some flag => some (.option flag text none)
  | none =>
    match Text.cutAt '=' text.toList with
    | (start, some value) =>
      (Flag.ofSpelling? (String.ofList start)).map fun flag ↦
        .option flag (String.ofList start) (some (String.ofList value))
    | (_, none) => none

/-- The word that a text with a dash in front is. -/
def dashedWord (text : String) : Except UsageFault Word :=
  match exactOption? text with
  | some word => .ok word
  | none =>
    let chars := text.toList
    let candidates :=
      if chars.take 2 == ['-', '-'] then longCandidates chars else shortCandidates chars
    match candidates with
    | [(flag, spelling, value)] => .ok (.option flag spelling value)
    | [] =>
      if isNegativeNumber chars || chars.contains ' ' then .ok (.plain text)
      else .ok (.unknown text)
    | several => .error (.ambiguous text (several.map fun (_, spelling, _) ↦ spelling))

/-- The words of a command line. Everything after the separator is plain. -/
def wordsOf : List String → Except UsageFault (List Word)
  | [] => .ok []
  | text :: rest =>
    if text == "--" then .ok (.separator :: rest.map .plain)
    else do
      let word ←
        if text.toList.head? == some '-' && text != "-" then dashedWord text else .ok (.plain text)
      return word :: (← wordsOf rest)

/-!
## Help

The usage and the help of the command line, for a terminal of eighty columns. The help of an option
starts in a fixed column and is wrapped there. Settings stand in it as they are, so a percent sign
in one begins a placeholder.
-/

/-- The name of the program. -/
def program : String := "routergen"

/-- The usage of a command line without any options but that for help. -/
def briefUsage : String :=
  "usage: " ++ program ++ " [-h]\n"

/-- The usage. -/
def usage : String :=
  "usage: " ++ program ++ " [-h] [--output OUTPUT] [--name NAME] [--url URL]\n" ++
    "                 [--timeout TIMEOUT] [-v]\n"

/-- What an option does, with the settings that hold without it. -/
def describe (config : Config) : Flag → String
  | .help => "show this help message and exit"
  | .output => "output package directory (default: " ++ config.output.text ++ ")"
  | .name => "REST client class name (default: " ++ config.apiName ++ ")"
  | .url => "OpenAPI/Swagger document URL (default: $SWAGGER_URL)"
  | .timeout => "fetch timeout in seconds (default: " ++ config.timeout.general ++ ")"
  | .verbose => "debug logging"

/-- An option with its spellings and its value. -/
def invocation (flag : Flag) : String :=
  ", ".intercalate (flag.spellings.map fun spelling ↦
    spelling ++ (flag.value?.elim "" fun value ↦ " " ++ value))

/-- The column in which the help of options starts. -/
def helpColumn : Nat := 21

/-- The width of the help of options. -/
def helpWidth : Nat := 57

/-- A text with spaces behind it up to a width. -/
def padRight (width : Nat) (text : String) : String :=
  text ++ "".pushn ' ' (width - text.length)

/-- The setting that holds without an option, as placeholders show it. -/
def defaultShown (config : Config) : Flag → Text.Shown
  | .output => .other config.output.text config.output.literal
  | .name => .text config.apiName
  | _ => .nothing

/-- The type that the value of an option is read as, as placeholders show it. -/
def typeShown : Flag → Text.Shown
  | .output => .text "Path"
  | .timeout => .text "float"
  | _ => .nothing

/-- The spellings of an option, as placeholders show them. -/
def spellingsShown (flag : Flag) : Text.Shown :=
  let text := "[" ++ ", ".intercalate (flag.spellings.map Text.literal) ++ "]"
  .other text text

/-- The group that options stand in, as placeholders show it. -/
def groupShown : Text.Shown :=
  let text := "<argparse._ArgumentGroup object at 0x7f0000000000>"
  .other text text

/-- The values that placeholders in the help of an option name. -/
def helpValues (config : Config) (flag : Flag) : Named Text.Shown :=
  [("option_strings", spellingsShown flag),
    ("dest", .text (match flag with | .output => "output" | _ => "name")),
    ("nargs", .nothing), ("const", .nothing), ("default", defaultShown config flag),
    ("type", typeShown flag), ("choices", .nothing), ("required", .no),
    ("help", .text (describe config flag)), ("metavar", .nothing), ("container", groupShown),
    ("prog", .text program)]

/-- The help of an option, line by line. -/
def optionLines (config : Config) (flag : Flag) : Except Text.PlaceholderFault (List String) := do
  let text ← Text.fillPlaceholders (helpValues config flag) (describe config flag).toList
  let wrapped := Text.wrap helpWidth (Text.strip (Text.foldPlainSpaces text))
  let head := padRight helpColumn ("  " ++ invocation flag)
  match wrapped.map String.ofList with
  | [] => return [head]
  | first :: rest => return (head ++ first) :: rest.map fun line ↦ "".pushn ' ' helpColumn ++ line

/-- The help of options in order, line by line. -/
def optionsLines (config : Config) : List Flag → Except Text.PlaceholderFault (List String)
  | [] => .ok []
  | flag :: rest => do
    let lines ← optionLines config flag
    return lines ++ (← optionsLines config rest)

/-- The help. -/
def help (config : Config) : Except Text.PlaceholderFault String := do
  let lines ← optionsLines config Flag.all
  return usage ++ "\nGenerate typed procedure routers from an OpenAPI document.\n\noptions:\n" ++
    String.join (lines.map (· ++ "\n"))

end ApiCompiler.CommandLine
