import ApiCompiler.Compile
import ApiCompiler.Package.Components
import ApiCompiler.Package.Forwarding
import ApiCompiler.Package.Source
import ApiCompiler.Schema.Writable

/-!
# The context of a package

Everything that the files of a package are written from: the component schemas, and for each router
its models, its procedures and the methods of the client that they call.
-/

namespace ApiCompiler.Package

/-- A procedure of a router module. -/
structure Endpoint where
  /-- The procedure name. -/
  name : String
  /-- The function. -/
  function : String
  /-- Whether it only reads. -/
  isQuery : Bool
  /-- The method of the operation in lower case. -/
  method : String
  /-- The path of the operation. -/
  path : String
  /-- What it does. -/
  description : String
  /-- The class of its input. -/
  inputModel : String
  /-- The type of its result. -/
  response : TypeExpr
  /-- The call it forwards to. -/
  call : ForwardingCall

/-- A method of the client. -/
structure ClientMethod where
  /-- The method name. -/
  function : String
  /-- The method of the operation in upper case. -/
  httpMethod : String
  /-- The path with its templates. -/
  path : String
  /-- The parameter for each path parameter. -/
  params : Named String
  /-- What it does. -/
  description : String

/-- A router module and its part of the client. -/
structure RouterContext where
  /-- The resource. -/
  name : String
  /-- The module, which is also the attribute of the client. -/
  nspace : String
  /-- The models of the module. -/
  models : List Model
  /-- The procedures. -/
  endpoints : List Endpoint
  /-- The methods of the client. -/
  methods : List ClientMethod

/-- What a package is written from. -/
structure Context where
  /-- The class of the client. -/
  apiName : String
  /-- The title of the document. -/
  title : String
  /-- Where the document comes from. -/
  sourceUrl : String
  /-- The component schemas. -/
  components : ComponentModule
  /-- The routers. -/
  routers : List RouterContext

/-- The class of a resource in the client. -/
def RouterContext.className (router : RouterContext) : String :=
  "_" ++ Naming.pascal router.nspace ++ "Resource"

/-- The number of procedures. -/
def Context.procedureCount (context : Context) : Nat :=
  (context.routers.flatMap RouterContext.endpoints).length

namespace Endpoint

/-- Who may call a procedure. -/
def access (e : Endpoint) : String :=
  if e.isQuery then "public" else "protected"

/-- The kind of a procedure. -/
def kind (e : Endpoint) : String :=
  if e.isQuery then "query" else "mutation"

/-- The type of the result, unless it is anything. -/
def responseModel? (e : Endpoint) : Option String :=
  if e.response.text == "Any" then none else some e.response.text

/-- The decorator of the function. -/
def decorator (e : Endpoint) : String :=
  "@" ++ e.access ++ "_procedure." ++ e.kind ++ "(router, " ++ Text.literal e.name ++
    (e.responseModel?.elim "" fun model ↦ ", response_model=" ++ model) ++ ")"

/-- The parameter that takes the input. -/
def inputParam (e : Endpoint) : String :=
  "input: " ++ e.inputModel ++
    (if e.isQuery then " = Depends(query_input(" ++ e.inputModel ++ "))" else "")

/-- The error that a failed call raises. -/
def errorClass (e : Endpoint) : String :=
  if e.isQuery then "NotFoundError" else "BadRequestError"

/-- The text of that error. -/
def errorMessage (e : Endpoint) : String :=
  "Failed to " ++ e.method ++ " " ++ e.path

end Endpoint

/-- Names that a router module imports and that models and fields must not take. -/
def routerModuleNames : List String :=
  ["APIRouter", "Depends", "Context", "NotFoundError", "BadRequestError", "schemas"]

/-- The expressions for components in a router module. -/
def qualifiedComponents (names : Named String) : ComponentNames :=
  fun _ component ↦ (names.find? component).map fun name ↦ "schemas." ++ name

/-- Makes the models of a router's inputs and gives the class of each. -/
def hoistInputs (components : ComponentNames) :
    List (String × Schema) → ModelScope → Named String × ModelScope
  | [], scope => ([], scope)
  | (name, schema) :: rest, scope =>
    let (className, scope) := schema.hoist components name scope
    let (inputs, scope) := hoistInputs components rest scope
    ((name, className) :: inputs, scope)

/-- The fields of a model of the scope. -/
def fieldsOf (scope : ModelScope) (className : String) : Named String :=
  ((scope.models.find? fun m ↦ m.name == className).map Model.names).getD []

/-- The procedure and the client method of a route. -/
def endpointOf (scope : ModelScope) (inputs : Named String) (response : TypeExpr)
    (procedure : Procedure) : Report (Endpoint × ClientMethod) := do
  let route := procedure.route
  let inputModel ← require inputs procedure.inputModel
  let call ← match procedure.call with
    | some call => pure call
    | none => .fail (.missingKey "call")
  let forwarding ← forwardingCall (fieldsOf scope inputModel) route call
  let endpoint : Endpoint :=
    ⟨route.name, procedure.function, route.isQuery, route.method, route.path, route.description,
      inputModel, response, forwarding⟩
  let method : ClientMethod :=
    ⟨procedure.function, Route.upperMethod route.method, route.path, clientParams route,
      route.description⟩
  return (endpoint, method)

/-- The procedures and client methods of routes, in order. -/
def endpointsOf (components : ComponentNames) (inputs : Named String) :
    List Procedure → ModelScope → Report (List (Endpoint × ClientMethod) × ModelScope)
  | [], scope => pure ([], scope)
  | procedure :: rest, scope => do
    let hint := Naming.pascal procedure.route.name ++ "Response"
    let (response, scope) := procedure.route.response.render components false hint scope
    let endpoint ← endpointOf scope inputs response procedure
    let (endpoints, scope) ← endpointsOf components inputs rest scope
    return (endpoint :: endpoints, scope)

/-- The context of a router, given the names of the components. -/
def routerContext (names : Named String) (router : Router) : Report RouterContext := do
  let components := qualifiedComponents names
  let (inputs, scope) :=
    hoistInputs components router.schemas (ModelScope.empty routerModuleNames)
  let (endpoints, scope) ← endpointsOf components inputs router.procedures scope
  return ⟨router.name, router.nspace, scope.models, endpoints.map Prod.fst,
    endpoints.map Prod.snd⟩

/-- The contexts of routers in order. -/
def routerContexts (names : Named String) : List Router → Report (List RouterContext)
  | [] => pure []
  | router :: rest => do
    let context ← routerContext names router
    return context :: (← routerContexts names rest)

/-- The class name that an API name gives rise to. -/
def apiClassName (apiName : String) : String :=
  ModelScope.className apiName "Api"

/-- The schemas that a package is written from. -/
def schemasOf (compilation : Compilation) : List Schema :=
  compilation.table.map Prod.snd ++ compilation.registry.flatMap fun router ↦
    router.schemas.map Prod.snd ++ router.procedures.map fun procedure ↦ procedure.route.response

/-- Whether all schemas of a compiled document can be written. -/
def isWritable (compilation : Compilation) : Bool :=
  (schemasOf compilation).all Schema.isWritable

/-- The context of a compiled document; without a title the API name stands in. -/
def contextOf (compilation : Compilation) (apiName sourceUrl title : String) : Report Context := do
  let names := classNames (Named.names compilation.table)
  unless isWritable compilation do Report.fail .tooLong
  if (schemasOf compilation).any Schema.isTooDeep then Report.fail (.endless none)
  let routers ← routerContexts names compilation.registry
  return ⟨apiClassName apiName, if title == "" then apiName else title, sourceUrl,
    componentModule compilation.table names, routers⟩

end ApiCompiler.Package
