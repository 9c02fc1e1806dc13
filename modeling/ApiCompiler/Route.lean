import ApiCompiler.PathTemplate
import ApiCompiler.Naming.Procedure
import ApiCompiler.Route.Parameter
import ApiCompiler.Text.Split
import ApiCompiler.Text.Case
import ApiCompiler.Value

/-!
# Routes

A route is what the compiler keeps of one operation: its names, its path and query parameters, its
body, the schema of its success response and its description. A path without a resource segment has
no route. An operation is described by its summary, or else by its description, without markup tags
and with white space folded; an operation that has neither is described by its method and path.
-/

namespace ApiCompiler.Route

/-! ## Descriptions -/

/-- Free text without tags, with runs of blanks folded and trimmed. -/
def plainText (text : List Char) : List Char :=
  Text.strip (Text.foldBlanks ((Piece.split '<' '>' text).flatMap Piece.outer))

/-- A text that is not blank, made plain. -/
def plainText? : Value → Option String
  | .text s =>
    if (Text.strip s.toList).isEmpty then none else some (String.ofList (plainText s.toList))
  | _ => none

/-- The name of a method in upper case. -/
def upperMethod (method : String) : String :=
  String.ofList (Text.upper method.toList)

/-- The description of an operation. -/
def describe (method path : String) (node : Value.Entries) : String :=
  match (node.get? "summary").bind plainText?, (node.get? "description").bind plainText? with
  | some summary, _ => summary
  | none, some description => description
  | none, none => upperMethod method ++ " " ++ path

end ApiCompiler.Route

namespace ApiCompiler

open Value (Entries)

/-- One operation, ready to be bound to the client and grouped with its resource. -/
structure Route where
  /-- The procedure name. -/
  name : String
  /-- The operation name, by which calls are overridden. -/
  operation : String
  /-- The method in lower case. -/
  method : String
  /-- The path with its templates. -/
  path : String
  /-- The resource that the route belongs to. -/
  resource : String
  /-- What the operation does. -/
  description : String
  /-- The schemas of the path parameters, in path order. -/
  pathParams : Named Schema
  /-- The schemas of the query parameters, in order of declaration. -/
  queryParams : Properties
  /-- The schema of the body, if there is one. -/
  body : Option Schema
  /-- Whether the body has to be given. -/
  bodyRequired : Bool
  /-- The input property that carries the body. -/
  bodyKey : String
  /-- The schema of the response. -/
  response : Schema

namespace Route

/-- Reading methods are queries, which anyone may call. -/
def isQuery (route : Route) : Bool :=
  route.method == "get"

/-- The input property and client keyword for a body. -/
def bodyKeyword : String := "data"

/-- The client keyword for the query parameters. -/
def queryKeyword : String := "query"

/-- The schema for JSON content of a body or response whose references have been followed. -/
def jsonSchema? (container : Value) : Option Value :=
  match ((container.get? "content").bind (Value.get? · "application/json")).bind
      (Value.get? · "schema") with
  | some (.map schema) => some (.map schema)
  | _ => none

/-- The codes of a successful response, in order of preference. -/
def successCodes : List Value :=
  [.text "200", .int 200, .text "201", .int 201]

/-- The first successful response. -/
def successResponse (operation : Entries) : Value :=
  match operation.get? "responses" with
  | some (.map responses) => (successCodes.findSome? (Value.Keyed.lookup? responses)).getD .null
  | _ => .null

/-- The schema of a body and whether the body has to be given. -/
def bodyOf (document : Value) (known : Option (List String)) (operation : Entries) :
    Report (Option Schema × Bool) := do
  let container ← Document.deref document ((operation.get? "requestBody").getD .null)
  match jsonSchema? container with
  | none => return (none, false)
  | some node =>
    let schema ← Schema.resolve known node
    return (some schema, !((container.get? "required").map Value.isFalse).getD false)

/-- The schema of the success response; without one it is unknown. -/
def responseOf (document : Value) (known : Option (List String)) (operation : Entries) :
    Report Schema := do
  match jsonSchema? (← Document.deref document (successResponse operation)) with
  | none => return .unknown false
  | some node => Schema.resolve known node

/-- The procedure name of an operation: its own, or one built from method and path. -/
def nameOf (method path : String) (operation : Entries) : String :=
  match operation.get? "operationId" with
  | some (.text id) =>
    let id := Text.strip id.toList
    if id.isEmpty then Naming.ofRoute method path
    else Naming.ofOperation (String.ofList id)
  | _ => Naming.ofRoute method path

/-- The text of a path key. -/
def pathText : Value → Report String
  | .text path => pure path
  | key => .fail (.pathNotText key)

/-- The route of an operation, unless its path has no resource segment. -/
def ofOperation (document : Value) (known : Option (List String)) (method : String)
    (path : Value) (operation item : Entries) : Report (Option Route) := do
  let path ← pathText path
  match PathTemplate.resource? path with
  | none =>
    Report.note (.skippedRoute (upperMethod method) path)
    return none
  | some resource =>
    let method := String.ofList (Text.lower method.toList)
    let parameters ← collectParameters document operation item
    let pathParams ← pathSchemas known parameters (PathTemplate.params path)
    let queryParams ← querySchemas known parameters
    let bodyKey := Naming.firstFree (pathParams.names ++ queryParams.names)
      (Naming.underscored bodyKeyword)
    let (body, bodyRequired) ← bodyOf document known operation
    let response ← responseOf document known operation
    let name := nameOf method path operation
    return some
      { name, operation := name, method, path, resource
        description := describe method path operation
        pathParams, queryParams, body, bodyRequired, bodyKey, response }

/-- The query parameters that do not collide with a path parameter. -/
def ownQueryParams (route : Route) : Properties :=
  route.queryParams.filter fun query ↦ !Named.has route.pathParams query.1

/-- The properties of a procedure's input: path parameters, query parameters and the body. -/
def inputProperties (route : Route) : Properties :=
  let path := route.pathParams.map fun (name, schema) ↦ (name, true, schema)
  let body := route.body.map fun schema ↦ (route.bodyKey, route.bodyRequired, schema)
  path ++ route.ownQueryParams ++ body.toList

/-- The input of a procedure as a schema. -/
def inputSchema (route : Route) : Schema :=
  .object false route.inputProperties

/-- The query parameters that the input leaves out, as entries of the log. -/
def collisions (route : Route) : List LogEntry :=
  (route.queryParams.filter fun query ↦ Named.has route.pathParams query.1).map fun query ↦
    .collidingParameter route.name query.1

end Route

end ApiCompiler
