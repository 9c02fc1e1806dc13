import ApiCompiler.Naming.Spelling
import ApiCompiler.Route.Call

/-!
# The registry of routers

Routes are grouped by resource into routers, in the order in which resources are first seen.
Within a router procedure names and functions are unique: a route whose name is taken gets its
method appended and then a number. Across routers the client namespaces are unique.
-/

namespace ApiCompiler

/-- A route that has its place in a router. -/
structure Procedure where
  /-- The route, under its unique name. -/
  route : Route
  /-- The function of the procedure. -/
  function : String
  /-- The name of its input among the router's schemas. -/
  inputModel : String
  /-- The forwarding call, if one has been bound. -/
  call : Option Call

/-- The routes of one resource. -/
structure Router where
  /-- The resource. -/
  name : String
  /-- The attribute of the client and the module of the package. -/
  nspace : String
  /-- The inputs of the procedures by name. -/
  schemas : Named Schema
  /-- The procedures in order of discovery. -/
  procedures : List Procedure

/-- The routers in order of their first route. -/
abbrev Registry := List Router

namespace Router

/-- Whether a procedure name or its function is taken. -/
def isTaken (router : Router) (name : String) : Bool :=
  router.procedures.any fun p ↦
    p.route.name == name || p.function == Naming.functionOf name

/-- The name with its method, where the name alone is taken. -/
def baseName (router : Router) (route : Route) : String :=
  if router.isTaken route.name then
    route.name ++ String.ofList (Text.capitalize route.method.toList)
  else route.name

/-- The first free name for a route. -/
def freeName (router : Router) (route : Route) : String :=
  let candidate := Naming.numbered (router.baseName route) ""
  candidate (Naming.leastFree (fun i ↦ router.isTaken (candidate i))
    (2 * router.procedures.length + 1))

/-- The name of a procedure's input. -/
def inputModelOf (name : String) : String :=
  Naming.pascal name ++ "Input"

/-- Sets a schema of the router; one of the same name is replaced, which is logged if it differs. -/
def mergeSchema (router : Router) (name : String) (schema : Schema) : Report Router := do
  match Named.find? router.schemas name with
  | some known =>
    unless known.same schema do
      Report.note (.redefinedSchema router.name name)
  | none => pure ()
  return { router with schemas := router.schemas.put name schema }

/-- Sets several schemas of the router. -/
def mergeSchemas (router : Router) : List (String × Schema) → Report Router
  | [] => pure router
  | (name, schema) :: rest => do
    mergeSchemas (← router.mergeSchema name schema) rest

/-- The route as a procedure of the router, under a free name. -/
def procedureFor (router : Router) (route : Route) (call : Option Call) : Procedure :=
  let name := router.freeName route
  let function := Naming.functionOf name
  { route := { route with name }
    function
    inputModel := inputModelOf name
    call := call.map fun c ↦ { c with resourceNamespace := router.nspace, methodName := function } }

/-- Adds a route to the router. -/
def add (router : Router) (route : Route) (call : Option Call) :
    Report (Router × Procedure) := do
  let procedure := router.procedureFor route call
  procedure.route.collisions.forM Report.note
  let router ← router.mergeSchema procedure.inputModel procedure.route.inputSchema
  return ({ router with procedures := router.procedures ++ [procedure] }, procedure)

end Router

namespace Registry

/-- The router of a resource. -/
def find? (registry : Registry) (resource : String) : Option Router :=
  List.find? (fun router ↦ router.name == resource) registry

/-- A router without routes, under the first free namespace. -/
def newRouter (registry : Registry) (resource : String) : Router :=
  ⟨resource,
    Naming.firstFree (registry.map Router.nspace)
      (Naming.numbered (Naming.namespaceOf resource) "_"), [], []⟩

/-- Puts a router in the place of the one with its name, or at the end. -/
def put : Registry → Router → Registry
  | [], router => [router]
  | r :: rest, router => if r.name == router.name then router :: rest else r :: put rest router

/-- Adds a route to the router of its resource, which is created on first sight. -/
def add (registry : Registry) (route : Route) (call : Option Call) :
    Report (Registry × Router × Procedure) := do
  let router := (registry.find? route.resource).getD (registry.newRouter route.resource)
  let (router, procedure) ← router.add route call
  return (registry.put router, router, procedure)

/-- The number of routes. -/
def routeCount (registry : Registry) : Nat :=
  (registry.flatMap Router.procedures).length

end Registry

end ApiCompiler
