import ApiCompiler.Schema.Resolve

/-!
# Schemas of components

The table of component schemas, and the end of a chain of references in it.
-/

namespace ApiCompiler

/-- The component schemas of a document, or the definitions of an older one. -/
def componentNodes (document : Value) : Value.Entries :=
  match (document.get? "components").bind (Value.get? · "schemas") with
  | some (.map nodes) => nodes
  | _ =>
    match document.get? "definitions" with
    | some (.map nodes) => nodes
    | _ => []

/-- Resolves nodes into the table, one after the other. -/
def SchemaTable.extend (table : SchemaTable) : Value.Entries → Report SchemaTable
  | [] => pure table
  | (key, node) :: rest => do
    let schema ← Schema.resolve none node
    let name ← Schema.keyName key
    SchemaTable.extend (Named.put table name schema) rest

/-- The table of a document's component schemas; references among them are kept. -/
def SchemaTable.ofDocument (document : Value) : Report SchemaTable := do
  let table ← SchemaTable.extend [] (componentNodes document)
  Report.note (.collectedSchemas table.length)
  return table

namespace Schema

/-- The table without an entry. -/
def without (table : SchemaTable) (name : String) : SchemaTable :=
  table.filter fun entry ↦ entry.1 != name

theorem length_without_lt {table : SchemaTable} {name : String} {schema : Schema}
    (h : Named.find? table name = some schema) : (without table name).length < table.length := by
  unfold without
  apply List.length_filter_lt_length_iff_exists.mpr
  refine ⟨(name, schema), ?_, by simp⟩
  unfold Named.find? at h
  induction table with
  | nil => simp at h
  | cons entry rest ih =>
    obtain ⟨n, s⟩ := entry
    simp only [List.lookup_cons] at h
    split at h
    · next heq => simp_all
    · exact List.mem_cons_of_mem _ (ih h)

/-- The first schema on a chain of references that is no reference itself. A chain that leaves the
table or comes back to a name it has followed ends in the unknown schema, which admits null if the
reference at which it stops does. -/
def deref (table : SchemaTable) : Schema → Schema
  | .ref nullable name =>
    match h : Named.find? table name with
    | none => .unknown nullable
    | some schema =>
      have := length_without_lt h
      deref (without table name) schema
  | schema => schema
termination_by table.length

end Schema

end ApiCompiler
