import ApiCompiler.Compile
import ApiCompiler.Failure.Kind
import ApiCompiler.Package
import ApiCompiler.Package.Install
import ApiCompiler.Retrieval

/-!
# Generation of a package

A run retrieves a document, compiles it, and installs the package in the place of the output. An
address that is no source is refused before anything is done. Any later failure is the cause of the
run's failure, and the output is then as it was.
-/

namespace ApiCompiler

open Files (Disk Path Volume)

/-- The title that a document states. -/
def Document.title (document : Value.Entries) : String :=
  (((document.get? "info").bind fun info ↦ info.get? "title").bind Value.text?).getD ""

/-- What is to be generated. A setting without a value is missed where it is needed. -/
structure Request where
  /-- The address of the document. -/
  url : Value
  /-- The name of the client class. -/
  apiName : Option String
  /-- The directory of the package. -/
  output : Option Path
  /-- The seconds that the retrieval may take. -/
  timeout : Option Binary64
  /-- The arguments of calls by operation. -/
  overrides : Overrides := []

/-- What surrounds a run. -/
structure Surroundings where
  /-- The files. -/
  volume : Volume
  /-- The network. -/
  transport : Transport
  /-- A text that no name beside the output ends in. -/
  mark : String

/-- Why a run fails. -/
inductive RunFailure where
  | refused (failure : Failure)
  | failed (cause : Failure)

/-- The text of a run's failure. -/
def RunFailure.message : RunFailure → String
  | refused failure => failure.message
  | failed cause =>
    "Failed to generate routers: " ++ (if cause.message == "" then cause.kind else cause.message)

/-- What a run did. -/
structure Run where
  /-- What was logged. -/
  log : List LogEntry
  /-- The lines that were printed. -/
  printed : List String
  /-- The addresses that were requested. -/
  requests : List String
  /-- The files afterwards. -/
  volume : Volume
  /-- The context of the package, or why there is none. -/
  outcome : Except RunFailure Package.Context

namespace Run

/-- The value of a setting that is needed now. -/
def neededFor {α : Type} (setting : Setting) (value : Option α) : Report α :=
  value.elim (Report.fail (.noSetting setting)) pure

/-- The context of the package for a document. -/
def contextFor (request : Request) (url : String) (document : Value.Entries) :
    Report Package.Context := do
  let compilation ← Compilation.ofDocument (.map document) request.overrides
  let apiName ← neededFor .apiName request.apiName
  Package.contextOf compilation apiName url (Document.title document)

/-- The line that announces a run. -/
def announcement (source : Source) : String :=
  "Generating routers from: " ++ source.url

/-- The line that concludes a run. -/
def conclusion (output : Path) (context : Package.Context) : String :=
  "Generated " ++ output.text ++ " (" ++ toString context.routers.length ++ " routers, " ++
    toString context.procedureCount ++ " procedures)"

/-- A run that fails after it was announced. -/
def failing (source : Source) (log : List LogEntry) (requests : List String) (volume : Volume)
    (cause : Failure) : Run :=
  { log := log ++ [.generationFailed]
    printed := [announcement source]
    requests
    volume
    outcome := .error (.failed cause) }

/-- A run for a source. -/
def ofSource (surroundings : Surroundings) (request : Request) (source : Source) : Run :=
  let retrieval :=
    Retrieval.document surroundings.volume surroundings.transport request.timeout source
  let report : Report (Package.Context × Path) := do
    let context ← contextFor request source.url (← retrieval.report)
    return (context, ← neededFor .output request.output)
  match report.outcome with
  | .error cause => failing source report.log retrieval.requests surroundings.volume cause
  | .ok (context, output) =>
    let (installed, volume) := Package.installIn surroundings.volume (Package.files context)
      output surroundings.mark
    let log := report.log ++ installed.log
    match installed.outcome with
    | .error cause => failing source log retrieval.requests volume cause
    | .ok _ =>
      { log
        printed := [announcement source, conclusion output context]
        requests := retrieval.requests
        volume
        outcome := .ok context }

/-- A run. -/
def ofRequest (surroundings : Surroundings) (request : Request) : Run :=
  match Source.ofValue request.url with
  | .error failure =>
    { log := []
      printed := []
      requests := []
      volume := surroundings.volume
      outcome := .error (.refused failure) }
  | .ok source => ofSource surroundings request source

end Run

end ApiCompiler
