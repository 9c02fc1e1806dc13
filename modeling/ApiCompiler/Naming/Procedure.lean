import ApiCompiler.Naming.Identifier
import ApiCompiler.Naming.Spelling
import ApiCompiler.PathTemplate
import ApiCompiler.Text.Identifier

/-!
# Names of procedures

A procedure is named by its operation when the document names one, and otherwise by the words of its
path after the resource and a suffix for its method: `GET /vehicles/count` is `countList` and
`PUT /vehicles/bulk-edit` is `bulkEditUpdate`.
-/

namespace ApiCompiler.Naming

/-- The suffixes of the methods that change something. -/
def methodSuffixes : List (String × String) :=
  [("post", "Create"), ("put", "Update"), ("patch", "PartialUpdate"), ("delete", "Delete")]

/-- The suffix of a method, which for a read depends on the last segment of the path. -/
def methodSuffix (method : List Char) (segments : List (List Char)) : List Char :=
  if method = "get".toList then
    if (segments.getLast?.map PathTemplate.isParam).getD false then "Detail".toList
    else "List".toList
  else
    match methodSuffixes.lookup (String.ofList method) with
    | some suffix => suffix.toList
    | none => Text.capitalize method

/-- The words that a path contributes to a name: those after the resource outside templates, or else
those of the resource segment. -/
def pathWords (segments : List (List Char)) : List (List Char) :=
  let tail := segments.tail.flatMap fun segment ↦
    words ((PathTemplate.pieces segment).flatMap Piece.outer)
  if tail.isEmpty then
    match segments with
    | [] => ["root".toList]
    | segment :: _ => words segment
  else tail

/-- The procedure name of a method and a path. -/
def ofRoute (method path : String) : String :=
  let segments := PathTemplate.segments path.toList
  String.ofList (joinCamel (pathWords segments) ++
    methodSuffix (Text.lower method.toList) segments)

/-- The procedure name of a named operation: the name itself when it is an identifier, and its words
in camel case otherwise. -/
def ofOperation (operation : String) : String :=
  if Text.isIdentifier operation && !isKeyword operation then operation
  else identifier (camel operation) []

/-- Attributes that the client keeps for itself. -/
def clientReserved : List String := ["aclose", "request"]

/-- Names that a router module binds and a procedure must not shadow. -/
def functionReserved : List String :=
  ["router", "schemas", "datetime", "create_context", "public_procedure", "protected_procedure",
    "query_input"]

/-- The attribute of a resource on the client. -/
def namespaceOf (resource : String) : String :=
  identifier (snakeIdentifier resource) clientReserved

/-- The function of a procedure, which is also its method on the client. -/
def functionOf (procedure : String) : String :=
  identifier (snakeIdentifier procedure) functionReserved

end ApiCompiler.Naming
