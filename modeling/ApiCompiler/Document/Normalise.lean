import ApiCompiler.Document.Operation
import ApiCompiler.Report

/-!
# Documents of the second version

A document of version 2 is brought into the layout of version 3, which is the one that compilation
reads. Definitions become component schemas, a parameter in the body becomes the request body of its
operation, inline types of parameters become schemas, and schemas of responses become content.
Parameters of forms are dropped. A document of any other version stays as it is.
-/

namespace ApiCompiler.Document

open Value (Entries Keyed)

/-- Content that holds a schema as JSON. -/
def jsonContent (schema : Value) : Value :=
  .map [(.text "application/json", .map [(.text "schema", schema)])]

/-- The parts of an inline type. -/
def typeKeys : List String := ["type", "format", "items", "enum"]

/-- Whether a node states a location. -/
def isLocated (node : Entries) (location : String) : Bool :=
  ((node.get? "in").map (Value.text location).equals).getD false

/-- A parameter whose inline type has become a schema. -/
def nestType (node : Entries) : Entries :=
  if !node.has "schema" && node.has "type" then
    let schema := typeKeys.filterMap fun key ↦
      (node.get? key).map fun value ↦ ((Value.text key, value) : Value × Value)
    (typeKeys.foldl Keyed.remove node).putText "schema" (.map schema)
  else node

/-- A request body made of a parameter in the body. -/
def bodyOfParameter (node : Entries) : Value :=
  .map [(.text "required", (node.get? "required").getD (.bool false)),
    (.text "content", jsonContent ((node.get? "schema").getD (.map [])))]

/-- What becomes of an entry of a parameter list: a parameter, unless it is in a body or a form. -/
def convertParameter? : Value → Option Value
  | .map node =>
    if isLocated node "body" || isLocated node "formData" then none
    else some (.map (nestType node))
  | other => some other

/-- The request body that an entry of a parameter list states. -/
def parameterBody? : Value → Option Value
  | .map node => if isLocated node "body" then some (bodyOfParameter node) else none
  | _ => none

/-- The entries of a parameter list. -/
def parameterEntries (node : Entries) : List Value :=
  match node.get? "parameters" with
  | some (.list entries) => entries
  | _ => []

/-- The request body that a node's parameters state; the last one counts. -/
def statedBody (node : Entries) : Option Value :=
  (parameterEntries node).reverse.findSome? parameterBody?

/-- A node whose parameters are converted. -/
def convertParameters (node : Entries) : Entries :=
  if node.has "parameters" then
    node.putText "parameters" (.list ((parameterEntries node).filterMap convertParameter?))
  else node

/-- The entries of a response whose schema has become content. -/
def contentOfSchema (node : Entries) : Entries :=
  match node.get? "schema" with
  | some schema =>
    if node.has "content" then node
    else (node.remove "schema").putText "content" (jsonContent schema)
  | none => node

/-- A response whose schema has become content. -/
def convertResponse : Value → Value
  | .map node => .map (contentOfSchema node)
  | other => other

/-- A node whose responses are converted. -/
def convertResponses (node : Entries) : Entries :=
  match node.get? "responses" with
  | some (.map responses) =>
    node.putText "responses"
      (.map (responses.map fun (code, response) ↦ (code, convertResponse response)))
  | _ => node

/-- An operation in the new layout, given the body stated by its path item. -/
def convertOperation (shared : Option Value) (node : Entries) : Entries :=
  let converted := convertParameters node
  let converted :=
    match statedBody node <|> shared with
    | some body =>
      if converted.has "requestBody" then converted else converted.putText "requestBody" body
    | none => converted
  convertResponses converted

/-- An entry of a path item in the new layout. -/
def convertMethod (shared : Option Value) : Value × Value → Value × Value
  | (.text method, .map node) =>
    if httpMethods.contains method then (.text method, .map (convertOperation shared node))
    else (.text method, .map node)
  | entry => entry

/-- An entry of the path items in the new layout. -/
def convertItem : Value × Value → Value × Value
  | (path, .map item) =>
    (path, .map ((convertParameters item).map (convertMethod (statedBody item))))
  | entry => entry

/-- A document whose definitions are component schemas as well. -/
def adoptDefinitions (document : Entries) : Report Entries :=
  let definitions := (document.get? "definitions").getD (.map [])
  match (document.get? "components").getD (.map []) with
  | .map components =>
    pure (document.putText "components" (.map (Keyed.putText components "schemas" definitions)))
  | other => .fail (.fixedComponents other)

/-- A document whose path items are converted. -/
def convertPaths (document : Entries) : Entries :=
  match document.get? "paths" with
  | some (.map items) => document.putText "paths" (.map (items.map convertItem))
  | _ => document

/-- The version that a value states; a collection states none. -/
def versionOf : Value → String
  | .list _ | .map _ | .set _ | .endless => ""
  | v => v.display

/-- The version that a document states under the keyword of version 2. -/
def statedVersion (document : Entries) : String :=
  ((document.get? "swagger").map versionOf).getD ""

/-- Whether a document is of version 2. -/
def isLegacy (document : Entries) : Bool :=
  (statedVersion document).toList.head? == some '2'

/-- A document in the layout of version 3. -/
def normalise (document : Entries) : Report Entries := do
  if isLegacy document then
    Report.note (.normalising (statedVersion document))
    return convertPaths (← adoptDefinitions document)
  else return document

end ApiCompiler.Document
