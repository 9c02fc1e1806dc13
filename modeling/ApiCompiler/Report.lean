import ApiCompiler.Failure

/-!
# Reports

A computation that logs what it meets on its way and may fail. The log of a failed computation holds
what was logged before the failure.
-/

namespace ApiCompiler

/-- How much an entry of the log matters. -/
inductive Level where
  | debug
  | warning
  deriving DecidableEq

/-- Something worth noting during an operation. -/
inductive LogEntry where
  | normalising (version : String)
  | fetching (url seconds : String)
  | collectedSchemas (count : Nat)
  | unresolvedReference (reference : String)
  | droppedPattern (pattern : String)
  | danglingReference (reference : String)
  | skippedRoute (method path : String)
  | collidingParameter (route name : String)
  | redefinedSchema (router name : String)
  | compiled (routes routers : Nat)
  | wrote (count : Nat) (path : String)
  | generationFailed
  deriving DecidableEq

namespace LogEntry

/-- How much an entry matters. -/
def level : LogEntry → Level
  | skippedRoute .. => .warning
  | collidingParameter .. => .warning
  | redefinedSchema .. => .warning
  | _ => .debug

/-- The part of the program that an entry comes from. -/
def origin : LogEntry → String
  | normalising _ | fetching .. => "loader"
  | collectedSchemas _ | unresolvedReference _ | droppedPattern _ => "schema_parser"
  | danglingReference _ | skippedRoute .. | collidingParameter .. => "routes"
  | redefinedSchema .. => "context_builder"
  | compiled .. | generationFailed => "compiler"
  | wrote .. => "codegen"

/-- The text of an entry. -/
def message : LogEntry → String
  | normalising version => "Normalising Swagger " ++ version ++ " document"
  | fetching url seconds => "Fetching " ++ url ++ " (timeout " ++ seconds ++ "s)"
  | collectedSchemas count => "Collected " ++ toString count ++ " component schemas"
  | unresolvedReference reference => "Unresolved reference " ++ reference ++ ", using unknown"
  | droppedPattern pattern =>
    "Dropping pattern " ++ Text.literal pattern ++ ": not a Python regular expression"
  | danglingReference reference => "Dangling reference " ++ reference
  | skippedRoute method path => "Skipping " ++ method ++ " " ++ path ++ ": no resource segment"
  | collidingParameter route name =>
    route ++ ": query parameter " ++ Text.literal name ++
      " collides with another input field, skipped"
  | redefinedSchema router name =>
    "Router " ++ router ++ ": local schema " ++ name ++ " redefined, keeping the latest"
  | compiled routes routers =>
    "Compiled " ++ toString routes ++ " routes into " ++ toString routers ++ " routers"
  | wrote count path => "Wrote " ++ toString count ++ " files to " ++ path
  | generationFailed => "Generation failed"

/-- An entry as a line of the log. -/
def line (entry : LogEntry) : String :=
  (match entry.level with
    | .debug => "DEBUG"
    | .warning => "WARNING") ++ " routergen." ++ entry.origin ++ ": " ++ entry.message

end LogEntry

/-- A computation with its log and its outcome. -/
structure Report (α : Type) where
  /-- What was logged, in order. -/
  log : List LogEntry
  /-- The result or the failure. -/
  outcome : Except Failure α

namespace Report

variable {α β : Type}

/-- A result without anything to log. -/
def ok (a : α) : Report α :=
  ⟨[], .ok a⟩

/-- A failure. -/
def fail (failure : Failure) : Report α :=
  ⟨[], .error failure⟩

/-- An entry of the log. -/
def note (entry : LogEntry) : Report Unit :=
  ⟨[entry], .ok ()⟩

/-- One computation after another. -/
def andThen (x : Report α) (f : α → Report β) : Report β :=
  match x.outcome with
  | .ok a =>
    let y := f a
    ⟨x.log ++ y.log, y.outcome⟩
  | .error failure => ⟨x.log, .error failure⟩

instance : Monad Report where
  pure := ok
  bind := andThen

/-- The outcome of a sequence is the sequence of the outcomes. -/
theorem outcome_bind (x : Report α) (f : α → Report β) :
    (x >>= f).outcome = x.outcome.bind fun a ↦ (f a).outcome := by
  show (andThen x f).outcome = _
  unfold andThen
  cases x.outcome <;> rfl

@[simp] theorem outcome_pure (a : α) : (pure a : Report α).outcome = .ok a :=
  rfl

/-- A computation that logs nothing. -/
def ofExcept : Except Failure α → Report α
  | .ok a => ok a
  | .error failure => fail failure

end Report

end ApiCompiler
