import ApiCompiler.Document.Operation
import ApiCompiler.Registry
import ApiCompiler.Schema.Table

/-!
# Compilation of a document

Compilation has two passes. The first resolves every component schema into the table. The second
takes the operations in document order, turns each into a route with its forwarding call, and adds
it to the registry.
-/

namespace ApiCompiler

/-- A compiled document. -/
structure Compilation where
  /-- The routers. -/
  registry : Registry
  /-- The component schemas. -/
  table : SchemaTable

namespace Compilation

/-- Adds one operation to the registry. -/
def addOperation (document : Value) (overrides : Overrides) (known : List String)
    (registry : Registry) (operation : Document.Operation) : Report Registry := do
  match ← Route.ofOperation document (some known) operation.method operation.path operation.node
      operation.item with
  | none => return registry
  | some route =>
    let call ← Call.bind overrides route
    let (registry, _) ← registry.add route (some call)
    return registry

/-- Adds operations to the registry in order. -/
def addOperations (document : Value) (overrides : Overrides) (known : List String)
    (registry : Registry) : List Document.Operation → Report Registry
  | [] => pure registry
  | operation :: rest => do
    let registry ← addOperation document overrides known registry operation
    addOperations document overrides known registry rest

/-- Compiles a document in the current layout. -/
def ofDocument (document : Value) (overrides : Overrides) : Report Compilation := do
  let table ← SchemaTable.ofDocument document
  let registry ←
    addOperations document overrides (Named.names table) [] (Document.operations document)
  Report.note (.compiled registry.routeCount registry.length)
  return ⟨registry, table⟩

end Compilation

end ApiCompiler
