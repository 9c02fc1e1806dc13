import ApiCompiler.CommandLine.Invocation
import ApiCompiler.Failure.Kind
import ApiCompiler.Generation

/-!
# The command line

A command line is read into settings, and a package is generated with them. What is logged goes to
the standard error, warnings always and everything else on demand; a failure follows there with its
cause. The exit code tells success, failure and misuse apart.
-/

namespace ApiCompiler.CommandLine

/-- What a command line does. -/
structure Effect where
  /-- The code with which the program ends. -/
  exitCode : Nat
  /-- What is written to the standard output. -/
  standardOutput : String
  /-- What is written to the standard error. -/
  standardError : String
  /-- The files afterwards. -/
  volume : Files.Volume

/-- What is to be generated for an invocation. -/
def requestOf (invocation : Invocation) : Request :=
  let config := invocation.config
  { url := (invocation.valueOf .url config.sourceUrl).elim (.list []) .text
    apiName := invocation.valueOf .name config.apiName
    output := invocation.valueOf .output config.output
    timeout := invocation.valueOf .timeout config.timeout }

/-- Whether an entry of the log is shown. -/
def isShown (verbose : Bool) (entry : LogEntry) : Bool :=
  verbose || entry.level == .warning

/-- Lines with their ends. -/
def joinLines (lines : List String) : String :=
  String.join (lines.map (· ++ "\n"))

/-- What caused a failure, in quoted form, if anything did. -/
def cause? : RunFailure → Option String
  | .refused (.invalidSource _ fault) =>
    fault.map fun fault ↦ "ValueError(" ++ Text.literal fault.message ++ ")"
  | .refused _ => none
  | .failed cause => some cause.quoted

/-- The lines that report a failure. -/
def failureLines (failure : RunFailure) : List String :=
  ("Error: " ++ failure.message) :: (cause? failure).toList.map ("Caused by: " ++ ·)

/-- What a run does as a program. -/
def effectOf (verbose : Bool) (run : Run) : Effect :=
  let logged := (run.log.filter (isShown verbose)).map LogEntry.line
  { exitCode := if run.outcome.isOk then 0 else 1
    standardOutput := joinLines run.printed
    standardError :=
      joinLines (logged ++
        match run.outcome with
        | .ok _ => []
        | .error failure => failureLines failure)
    volume := run.volume }

/-- The file that is read for an invocation, if it is one. -/
def sourceFile? (invocation : Invocation) : Option Files.Path :=
  match (invocation.valueOf .url invocation.config.sourceUrl).map Source.ofUrl with
  | some (.ok (.file _ path)) => some (.ofText path)
  | _ => none

/-- What an invocation does. -/
def carryOut (surroundings : Surroundings) (invocation : Invocation) : Effect :=
  effectOf invocation.verbose (Run.ofRequest surroundings (requestOf invocation))

/-- What a command line does in an environment. -/
def perform (surroundings : Surroundings) (environment : Named String) (arguments : List String) :
    Effect :=
  match read environment arguments with
  | .error stop =>
    ⟨stop.exitCode, stop.standardOutput, stop.standardError, surroundings.volume⟩
  | .ok invocation => carryOut surroundings invocation

end ApiCompiler.CommandLine
