import ApiCompiler.CommandLine.Option

/-!
# Reading the command line

The words of a command line change the settings of the environment one after the other. Asking for
help ends the reading, and so does the first fault. Words that belong to no option are a fault too,
once everything else is read.
-/

namespace ApiCompiler.CommandLine

/-- What a command line asks for. -/
structure Invocation where
  /-- The settings. -/
  config : Config
  /-- Whether everything that is logged is shown. -/
  verbose : Bool
  /-- The options that were given the separator for a value, and so have none. -/
  emptied : List Flag := []

/-- The value of an option, unless it has none. -/
def Invocation.valueOf {α : Type} (invocation : Invocation) (flag : Flag) (value : α) : Option α :=
  if invocation.emptied.contains flag then none else some value

/-- Why the reading of a command line ends without an invocation. -/
inductive Stop where
  | help (text : String)
  | fault (fault : UsageFault)
  | environment (fault : ConfigFault)
  | helpText (fault : Text.PlaceholderFault)

/-- The text of a fault. -/
def UsageFault.message : UsageFault → String
  | ambiguous text spellings =>
    "ambiguous option: " ++ text ++ " could match " ++ ", ".intercalate spellings
  | missingValue flag => "argument " ++ flag.title ++ ": expected one argument"
  | ignoredValue flag value =>
    "argument " ++ flag.title ++ ": ignored explicit argument " ++ Text.literal value
  | notNumber flag value =>
    "argument " ++ flag.title ++ ": invalid float value: " ++ Text.literal value
  | unrecognized texts => "unrecognized arguments: " ++ " ".intercalate texts

/-- The settings with the value of an option. The separator is no value. -/
def setValue (invocation : Invocation) (flag : Flag) (value : String) : Except Stop Invocation :=
  let config := invocation.config
  let others := invocation.emptied.filter (· != flag)
  if value == "--" then .ok { invocation with emptied := flag :: others }
  else
    let invocation := { invocation with emptied := others }
    match flag with
    | .output => .ok { invocation with config := { config with output := .ofText value } }
    | .name => .ok { invocation with config := { config with apiName := value } }
    | .url => .ok { invocation with config := { config with sourceUrl := value } }
    | .timeout =>
      match Text.readFloat? value with
      | some timeout => .ok { invocation with config := { config with timeout } }
      | none => .error (.fault (.notNumber flag value))
    | .help | .verbose => .ok invocation

/-- The settings with an option that has no value. -/
def setSwitch (defaults : Config) (invocation : Invocation) (flag : Flag) :
    Except Stop Invocation :=
  match flag with
  | .help =>
    match help defaults with
    | .ok text => .error (.help text)
    | .error fault => .error (.helpText fault)
  | .verbose => .ok { invocation with verbose := true }
  | _ => .ok invocation

/-- The options that share a dash with the one before them: each letter is one. The letters end in a
value if the last option takes one. -/
def sharedFlags (flag : Flag) (letters : List Char) :
    Except UsageFault (List Flag × Option String) :=
  match letters with
  | [] => .ok ([flag], none)
  | letter :: rest =>
    if flag.value?.isSome then .ok ([flag], some (String.ofList letters))
    else
      match Flag.ofSpelling? (String.ofList ['-', letter]) with
      | none => .error (.ignoredValue flag (String.ofList letters))
      | some next => do
        let (flags, value) ← sharedFlags next rest
        return (flag :: flags, value)

/-- The options that an option with a value attached to it stands for. -/
def attached (flag : Flag) (spelling value : String) :
    Except UsageFault (List Flag × Option String) :=
  if flag.value?.isSome then .ok ([flag], some value)
  else if value == "" || spelling.toList.take 2 == ['-', '-'] then
    .error (.ignoredValue flag value)
  else sharedFlags flag value.toList

/-- The settings with options in a row, the last of which may have a value. -/
def setAll (defaults : Config) (value : Option String) :
    (flags : List Flag) → Invocation → Except Stop Invocation
  | [], invocation => .ok invocation
  | [flag], invocation =>
    match value with
    | some value => setValue invocation flag value
    | none => setSwitch defaults invocation flag
  | flag :: rest, invocation => do
    setAll defaults value rest (← setSwitch defaults invocation flag)

/-- A fault as the end of the reading. -/
def orStop {α : Type} : Except UsageFault α → Except Stop α
  | .ok a => .ok a
  | .error fault => .error (.fault fault)

/-- Reads words; gives the settings and the words that belong to no option. -/
def readWords (defaults : Config) : List Word → Invocation → Except Stop (Invocation × List String)
  | [], invocation => .ok (invocation, [])
  | .plain text :: rest, invocation => do
    let (invocation, texts) ← readWords defaults rest invocation
    return (invocation, text :: texts)
  | .separator :: rest, invocation => do
    let (invocation, texts) ← readWords defaults rest invocation
    return (invocation, "--" :: texts)
  | .unknown text :: rest, invocation => do
    let (invocation, texts) ← readWords defaults rest invocation
    return (invocation, text :: texts)
  | .option flag spelling (some value) :: rest, invocation => do
    let (flags, value) ← orStop (attached flag spelling value)
    readWords defaults rest (← setAll defaults value flags invocation)
  | .option flag _ none :: rest, invocation =>
    if flag.value?.isSome then
      match rest with
      | .plain value :: rest => do readWords defaults rest (← setValue invocation flag value)
      | _ => .error (.fault (.missingValue flag))
    else do readWords defaults rest (← setSwitch defaults invocation flag)

/-- What a command line asks for in an environment. -/
def read (environment : Named String) (arguments : List String) : Except Stop Invocation :=
  match Config.ofEnvironment environment with
  | .error fault => .error (.environment fault)
  | .ok config => do
    let words ← orStop (wordsOf arguments)
    let (invocation, others) ← readWords config words { config, verbose := false }
    if others.isEmpty then return invocation
    else .error (.fault (.unrecognized others))

/-- The code with which the program ends. -/
def Stop.exitCode : Stop → Nat
  | .help _ => 0
  | .helpText _ => 1
  | .fault _ | .environment _ => 2

/-- What is written to the standard output. -/
def Stop.standardOutput : Stop → String
  | .help text => text
  | .fault _ | .environment _ | .helpText _ => ""

/-- What is written to the standard error. -/
def Stop.standardError : Stop → String
  | .help _ => ""
  | .fault reason => usage ++ program ++ ": error: " ++ reason.message ++ "\n"
  | .helpText _ => program ++ ": error: a setting has a placeholder that cannot be filled\n"
  | .environment reason => briefUsage ++ program ++ ": error: " ++ reason.message ++ "\n"

end ApiCompiler.CommandLine
