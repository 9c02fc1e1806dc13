import ApiCompiler.Binary64.Format
import ApiCompiler.Files.Path
import ApiCompiler.Named
import ApiCompiler.Text.Literal
import ApiCompiler.Text.Number

/-!
# Settings

Where the package goes, where the document is, what the client class is called and how long the
retrieval may take. Each setting has a variable of the environment and a value of its own where the
variable is not set.
-/

namespace ApiCompiler

/-- The settings of a run. -/
structure Config where
  /-- The directory of the generated package. -/
  output : Files.Path
  /-- The address of the document. -/
  sourceUrl : String
  /-- The name of the client class. -/
  apiName : String
  /-- The seconds that the retrieval may take. -/
  timeout : Binary64

/-- A variable whose value is no number of seconds. -/
structure ConfigFault where
  /-- The value of the variable. -/
  timeout : String
  deriving DecidableEq

/-- The text of a fault. -/
def ConfigFault.message (fault : ConfigFault) : String :=
  "ROUTERGEN_TIMEOUT must be a positive number of seconds, got " ++ Text.literal fault.timeout

namespace Config

/-- The variables of the environment that settings are read from. -/
def variableNames : List String :=
  ["SWAGGER_URL", "API_BASE_URL", "ROUTERGEN_OUTPUT_DIR", "ROUTERGEN_API_NAME",
    "ROUTERGEN_TIMEOUT"]

/-- The output where none is given. -/
def defaultOutput : String := "generated"

/-- The name of the client class where none is given. -/
def defaultApiName : String := "MySuperbApi"

/-- The time limit where none is given. -/
def defaultTimeout : Binary64 := .ofInt 30

/-- A variable that is set to some text. -/
def filled? (environment : Named String) (name : String) : Option String :=
  (environment.find? name).filter (· != "")

/-- The address of the document: the one that is set, or a fixed place below the base address. -/
def sourceUrlOf (environment : Named String) : String :=
  match filled? environment "SWAGGER_URL" with
  | some url => url
  | none =>
    let base := ((environment.find? "API_BASE_URL").getD "").toList
    String.ofList (base.reverse.dropWhile (· == '/')).reverse ++ "/swagger/doc.json"

/-- The time limit, which must be positive. -/
def timeoutOf (environment : Named String) : Except ConfigFault Binary64 :=
  match filled? environment "ROUTERGEN_TIMEOUT" with
  | none => .ok defaultTimeout
  | some text =>
    match (Text.readFloat? text).filter Binary64.isPositive with
    | some timeout => .ok timeout
    | none => .error ⟨text⟩

/-- The settings of an environment. -/
def ofEnvironment (environment : Named String) : Except ConfigFault Config := do
  let timeout ← timeoutOf environment
  return {
    output := .ofText ((environment.find? "ROUTERGEN_OUTPUT_DIR").getD defaultOutput)
    sourceUrl := sourceUrlOf environment
    apiName := (environment.find? "ROUTERGEN_API_NAME").getD defaultApiName
    timeout }

end Config

end ApiCompiler
