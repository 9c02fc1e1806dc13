import ApiCompiler.Value

/-!
# Operations of a document

The operations of a document are the mappings under a method name in its path items, in document
order.
-/

namespace ApiCompiler.Document

/-- The methods under which a path item has operations. -/
def httpMethods : List String :=
  ["get", "put", "post", "delete", "patch", "options", "head", "trace"]

/-- An operation of a document. -/
structure Operation where
  /-- The method name. -/
  method : String
  /-- The path, which may be any key. -/
  path : Value
  /-- The operation itself. -/
  node : Value.Entries
  /-- The path item it stands in. -/
  item : Value.Entries

/-- The path items of a document by path. -/
def paths (document : Value) : Value.Entries :=
  match document.get? "paths" with
  | some (.map entries) => entries
  | _ => []

/-- An entry of a path item as an operation. -/
def operationOf (path : Value) (item : Value.Entries) : Value × Value → Option Operation
  | (.text method, .map node) =>
    if httpMethods.contains method then some ⟨method, path, node, item⟩ else none
  | _ => none

/-- The operations of a path item. -/
def operationsOfItem : Value × Value → List Operation
  | (path, .map item) => item.filterMap (operationOf path item)
  | _ => []

/-- The operations of a document, in order. -/
def operations (document : Value) : List Operation :=
  (paths document).flatMap operationsOfItem

end ApiCompiler.Document
