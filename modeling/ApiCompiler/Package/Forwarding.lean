import ApiCompiler.Route.Call

/-!
# Forwarding expressions

The expression by which a procedure calls the client: the path parameters of its input by position
or by keyword, its query parameters as one mapping from wire names, and its body. Arguments after
the first keyword are keywords too.
-/

namespace ApiCompiler.Package

/-- What an argument of a forwarding expression evaluates to. -/
inductive Passed where
  | field (name : String)
  | mapping (entries : List (String × String))
  deriving DecidableEq

/-- An argument of a forwarding expression. -/
structure PassedArgument where
  /-- The parameter it is bound to by name, if it is not bound by position. -/
  keyword : Option String
  /-- What is passed. -/
  value : Passed
  deriving DecidableEq

/-- A call of a method of the client. -/
structure ForwardingCall where
  /-- The attribute of the client. -/
  resource : String
  /-- The method. -/
  method : String
  /-- The arguments in order. -/
  arguments : List PassedArgument
  deriving DecidableEq

/-- The text of a field of the input. -/
def fieldText (name : String) : String :=
  "input." ++ name

/-- The text of what is passed. -/
def Passed.text : Passed → String
  | field name => fieldText name
  | mapping entries =>
    "\x7b" ++ ", ".intercalate (entries.map fun (name, source) ↦
      Text.literal name ++ ": " ++ fieldText source) ++ "\x7d"

/-- The text of an argument. -/
def PassedArgument.text (argument : PassedArgument) : String :=
  (argument.keyword.elim "" fun name ↦ name ++ "=") ++ argument.value.text

/-- The text of a forwarding expression. -/
def ForwardingCall.text (call : ForwardingCall) : String :=
  "ctx.api." ++ call.resource ++ "." ++ call.method ++ "(" ++
    ", ".intercalate (call.arguments.map PassedArgument.text) ++ ")"

/-- Names that the parameters of every client method have. -/
def clientParameters : List String := ["self", "query", "data"]

/-- The client parameters for path parameters, clear of each other. -/
def clientParamsFrom (taken : List String) : List String → Named String
  | [] => []
  | name :: rest =>
    let parameter := Naming.identifier (Naming.snakeIdentifier name) taken
    (name, parameter) :: clientParamsFrom (parameter :: taken) rest

/-- The parameters of a client method for the path parameters of a route. -/
def clientParams (route : Route) : Named String :=
  clientParamsFrom clientParameters route.pathParams.names

/-- The value under a name that has to be there. -/
def require (entries : Named String) (name : String) : Report String :=
  match entries.find? name with
  | some value => pure value
  | none => .fail (.missingKey name)

/-- The wire names and the fields of the query parameters that the input has. -/
def queryEntries (fields : Named String) (route : Route) : List (String × String) :=
  route.queryParams.filterMap fun query ↦
    if Named.has route.pathParams query.1 then none
    else (fields.find? query.1).map fun field ↦ (query.1, field)

/-- The textual key of a path argument. -/
def keyText (argument : Argument) : String :=
  argument.key.text?.getD ""

/-- The arguments of a forwarding expression; `keyword` tells that one before was a keyword. -/
def passArguments (fields params : Named String) (route : Route) :
    (keyword : Bool) → List Argument → Report (List PassedArgument)
  | _, [] => pure []
  | keyword, argument :: rest =>
    match argument.kind with
    | .path => do
      let field ← require fields (keyText argument)
      let name ← if keyword then some <$> require params (keyText argument) else pure none
      return ⟨name, .field field⟩ :: (← passArguments fields params route keyword rest)
    | .query => do
      let value := Passed.mapping (queryEntries fields route)
      return ⟨some "query", value⟩ :: (← passArguments fields params route true rest)
    | .body => do
      let field ← require fields route.bodyKey
      return ⟨some "data", .field field⟩ :: (← passArguments fields params route true rest)

/-- The forwarding expression of a call, given the fields of the input model. -/
def forwardingCall (fields : Named String) (route : Route) (call : Call) :
    Report ForwardingCall := do
  let arguments ← passArguments fields (clientParams route) route false call.arguments
  return ⟨call.resourceNamespace, call.methodName, arguments⟩

end ApiCompiler.Package
