import ApiCompiler.Document.Reference
import ApiCompiler.Proofs.Named
import ApiCompiler.Proofs.Schema.Form
import ApiCompiler.Schema.Table
import ApiCompiler.Text.Split
import Mathlib.Tactic.SplitIfs

/-!
# Pointers into a document

A key is written with an escape for each tilde and each slash, so that no slash stands in it. The
escapes of slashes are undone first. That leaves the tilde of every other escape where it stands,
also in front of a digit that belongs to the key, so undoing the escapes of tildes gives the key
back. A pointer has its keys between slashes, and names a component by the last of them.

So a pointer that is written from the keys of a node leads to this node. One that is written from
the name of a component leads to the component's node, and a schema that consists of it refers to
the entry of the table that was resolved from the same node.
-/

namespace ApiCompiler

open Value (Entries Keyed)

namespace Pointer

/-- A character of a key as it is written. -/
def escaped (c : Char) : List Char :=
  if c = '~' then ['~', '0'] else if c = '/' then ['~', '1'] else [c]

/-- A character of a key as it is written but for slashes, which stand for themselves. -/
def tildeEscaped (c : Char) : List Char :=
  if c = '~' then ['~', '0'] else [c]

/-- A key as it is written. -/
def encodeKey (key : String) : List Char :=
  key.toList.flatMap escaped

/-- The pointer that leads along keys. -/
def ofKeys (keys : List String) : String :=
  String.ofList ('#' :: '/' :: ['/'].intercalate (keys.map encodeKey))

example : ofKeys ["a/b", "", "~1"] = "#/a~1b//~01" := by
  decide

/-! ## Keys as they are written -/

theorem decodeSlashes_cons_of_ne {c : Char} (h : c ≠ '~') (rest : List Char) :
    decodeSlashes (c :: rest) = c :: decodeSlashes rest := by
  rw [decodeSlashes]
  intro _ hc
  exact absurd hc h

theorem decodeTildes_cons_of_ne {c : Char} (h : c ≠ '~') (rest : List Char) :
    decodeTildes (c :: rest) = c :: decodeTildes rest := by
  rw [decodeTildes]
  intro _ hc
  exact absurd hc h

theorem decodeSlashes_flatMap (key : List Char) :
    decodeSlashes (key.flatMap escaped) = key.flatMap tildeEscaped := by
  induction key with
  | nil => rfl
  | cons c rest ih =>
    rw [List.flatMap_cons, List.flatMap_cons, ← ih, escaped, tildeEscaped]
    split_ifs with htilde hslash
    · rfl
    · rw [hslash]
      rfl
    · exact decodeSlashes_cons_of_ne htilde _

theorem decodeTildes_flatMap (key : List Char) :
    decodeTildes (key.flatMap tildeEscaped) = key := by
  induction key with
  | nil => rfl
  | cons c rest ih =>
    rw [List.flatMap_cons, tildeEscaped]
    split_ifs with htilde
    · rw [htilde]
      exact congrArg ('~' :: ·) ih
    · exact (decodeTildes_cons_of_ne htilde _).trans (congrArg (c :: ·) ih)

/-- A key is read back as it was before it was written. -/
theorem decodeKey_encodeKey (key : String) : decodeKey (encodeKey key) = key := by
  rw [decodeKey, encodeKey, decodeSlashes_flatMap, decodeTildes_flatMap, String.ofList_toList]

theorem slash_not_mem_encodeKey (key : String) : '/' ∉ encodeKey key := by
  rw [encodeKey, List.mem_flatMap]
  rintro ⟨c, -, hmem⟩
  unfold escaped at hmem
  split_ifs at hmem with htilde hslash
  · exact absurd hmem (by decide)
  · exact absurd hmem (by decide)
  · exact hslash (List.mem_singleton.mp hmem).symm

/-! ## Keys between slashes -/

theorem splitKeys_eq_splitOn (text : List Char) : splitKeys text = Text.splitOn '/' text := by
  induction text with
  | nil => rfl
  | cons c rest ih =>
    rw [splitKeys, ih]
    rfl

/-- The parts of a pointer are its keys as they are written. -/
theorem splitKeys_intercalate {keys : List String} (h : keys ≠ []) :
    splitKeys (['/'].intercalate (keys.map encodeKey)) = keys.map encodeKey := by
  rw [splitKeys_eq_splitOn]
  induction keys with
  | nil => exact absurd rfl h
  | cons key others ih =>
    have hkey := slash_not_mem_encodeKey key
    cases others with
    | nil => rw [List.map_singleton, List.intercalate_singleton, Text.splitOn_of_not_mem hkey]
    | cons next more =>
      rw [List.map_cons, List.map_cons, List.intercalate_cons_cons, List.append_assoc,
        List.singleton_append, Text.splitOn_append hkey, ← List.map_cons,
        ih (List.cons_ne_nil next more)]

/-- A pointer is read as the keys that it was written from. -/
theorem map_decodeKey_splitKeys {keys : List String} (h : keys ≠ []) :
    (splitKeys (['/'].intercalate (keys.map encodeKey))).map decodeKey = keys := by
  rw [splitKeys_intercalate h, List.map_map]
  calc
    keys.map (decodeKey ∘ encodeKey) = keys.map id := by
      congr 1
      funext key
      exact decodeKey_encodeKey key
    _ = keys := List.map_id keys

/-- A pointer names the component that its last key does. -/
theorem componentName_ofKeys (keys : List String) (name : String) :
    componentName (ofKeys (keys ++ [name])) = name := by
  have hne : keys ++ [name] ≠ [] := by simp
  have hmark : '/' ∉ ['#'] := by decide
  have hsplit : splitKeys (ofKeys (keys ++ [name])).toList =
      ['#'] :: (keys ++ [name]).map encodeKey := by
    rw [ofKeys, String.toList_ofList, splitKeys_eq_splitOn, ← List.singleton_append,
      Text.splitOn_append hmark, ← splitKeys_eq_splitOn, splitKeys_intercalate hne]
  rw [componentName, hsplit, List.map_append, List.map_singleton, ← List.cons_append,
    List.getLast?_concat, Option.getD_some, decodeKey_encodeKey]

end Pointer

/-! ## Nodes under keys -/

namespace Document

/-- Keys that lead from a value to a node, through mappings only. -/
inductive LeadsTo : Value → List String → Value → Prop where
  | here (node : Value) : LeadsTo node [] node
  | under {entries : Entries} {key : String} {keys : List String} {child node : Value}
      (found : entries.get? key = some child) (leads : LeadsTo child keys node) :
      LeadsTo (.map entries) (key :: keys) node

/-- Keys that break off: one of them is missing, or comes to a value that is no mapping. A value
that holds itself goes on where its unfolding stops, so keys do not break off there. -/
inductive Breaks : Value → List String → Prop where
  | missing {entries : Entries} {key : String} {keys : List String}
      (missing : entries.get? key = none) : Breaks (.map entries) (key :: keys)
  | inner {v : Value} {key : String} {keys : List String} (no_map : v.isMap = false)
      (not_endless : v ≠ .endless) : Breaks v (key :: keys)
  | under {entries : Entries} {key : String} {keys : List String} {child : Value}
      (found : entries.get? key = some child) (breaks : Breaks child keys) :
      Breaks (.map entries) (key :: keys)

variable {document node : Value} {keys : List String}

theorem descend?_map_cons (entries : Entries) (key : String) (keys : List String) :
    descend? (.map entries) (key :: keys) = (entries.get? key).bind (descend? · keys) :=
  rfl

theorem LeadsTo.descend?_eq (h : LeadsTo document keys node) :
    descend? document keys = some node := by
  induction h with
  | here node => rfl
  | under found _ ih => rw [descend?_map_cons, found, Option.bind_some, ih]

theorem Breaks.descend?_eq (h : Breaks document keys) : descend? document keys = none := by
  induction h with
  | missing missing => rw [descend?_map_cons, missing, Option.bind_none]
  | @inner v key keys no_map _ =>
    cases v with
    | map entries => cases no_map
    | _ => rfl
  | under found _ ih => rw [descend?_map_cons, found, Option.bind_some, ih]

/-- A pointer leads where its keys do. -/
theorem target?_ofKeys (document : Value) (h : keys ≠ []) :
    target? document (Pointer.ofKeys keys) = descend? document keys := by
  have hchars : (Pointer.ofKeys keys).toList =
      '#' :: '/' :: ['/'].intercalate (keys.map Pointer.encodeKey) :=
    String.toList_ofList
  rw [target?, hchars]
  exact congrArg (descend? document) (Pointer.map_decodeKey_splitKeys h)

theorem LeadsTo.resolveReference_eq (h : LeadsTo document keys node) (hne : keys ≠ []) :
    resolveReference document (Pointer.ofKeys keys) = pure node := by
  rw [resolveReference, target?_ofKeys document hne, h.descend?_eq]

theorem Breaks.resolveReference_eq (h : Breaks document keys) (hne : keys ≠ []) :
    resolveReference document (Pointer.ofKeys keys) =
      .fail (.missingKey (Pointer.ofKeys keys)) := by
  rw [resolveReference, target?_ofKeys document hne, h.descend?_eq]

end Document

/-! ## Components -/

/-- Nodes under textual keys. -/
def Named.toEntries (nodes : Named Value) : Entries :=
  nodes.map fun node ↦ (.text node.1, node.2)

theorem Named.get?_toEntries (nodes : Named Value) (name : String) :
    nodes.toEntries.get? name = nodes.find? name := by
  induction nodes with
  | nil => rfl
  | cons node rest ih =>
    rw [find?_cons, ← ih, toEntries, List.map_cons, Keyed.get?_cons, Keyed.keyIs_text]
    by_cases h : name = node.1
    · simp [h]
    · simp [h, Ne.symm h, toEntries]

namespace SchemaTable

variable {table final : SchemaTable} {nodes : Named Value}

theorem outcome_extend_cons {name : String} {node : Value} :
    (extend table (Named.toEntries ((name, node) :: nodes))).outcome = .ok final ↔
      ∃ schema, (Schema.resolve none node).outcome = .ok schema ∧
        (extend (Named.put table name schema) nodes.toEntries).outcome = .ok final := by
  rw [Named.toEntries, List.map_cons, extend, Report.outcome_bind_eq_ok]
  apply exists_congr
  intro schema
  apply and_congr_right'
  rw [Report.outcome_bind_eq_ok]
  constructor
  · rintro ⟨_, ⟨⟩, h⟩
    exact h
  · exact fun h ↦ ⟨name, rfl, h⟩

/-- A table is extended where all nodes resolve. -/
theorem exists_outcome_extend_iff (table : SchemaTable) (nodes : Named Value) :
    (∃ final, (extend table nodes.toEntries).outcome = .ok final) ↔
      ∀ node ∈ nodes, ∃ schema, (Schema.resolve none node.2).outcome = .ok schema := by
  induction nodes generalizing table with
  | nil => exact iff_of_true ⟨table, rfl⟩ nofun
  | cons node rest ih =>
    rw [List.forall_mem_cons]
    constructor
    · rintro ⟨final, h⟩
      obtain ⟨schema, hschema, h⟩ := outcome_extend_cons.mp h
      exact ⟨⟨schema, hschema⟩, (ih _).mp ⟨final, h⟩⟩
    · rintro ⟨⟨schema, hschema⟩, hrest⟩
      obtain ⟨final, h⟩ := (ih _).mpr hrest
      exact ⟨final, outcome_extend_cons.mpr ⟨schema, hschema, h⟩⟩

theorem find?_of_extend_of_not_mem {name : String}
    (h : (extend table nodes.toEntries).outcome = .ok final) (hname : name ∉ nodes.names) :
    Named.find? final name = Named.find? table name := by
  induction nodes generalizing table with
  | nil =>
    cases h
    rfl
  | cons node rest ih =>
    obtain ⟨schema, -, h⟩ := outcome_extend_cons.mp h
    rw [Named.names_cons, List.mem_cons, not_or] at hname
    rw [ih h hname.2, Named.find?_put, if_neg hname.1]

/-- Each node has the schema that it resolves to under its name. -/
theorem exists_find?_of_extend {name : String} {node : Value}
    (h : (extend table nodes.toEntries).outcome = .ok final) (hnodup : nodes.names.Nodup)
    (hmem : (name, node) ∈ nodes) :
    ∃ schema, (Schema.resolve none node).outcome = .ok schema ∧
      Named.find? final name = some schema := by
  induction nodes generalizing table with
  | nil => cases hmem
  | cons first rest ih =>
    obtain ⟨schema, hschema, h⟩ := outcome_extend_cons.mp h
    rw [Named.names_cons, List.nodup_cons] at hnodup
    rcases List.mem_cons.mp hmem with rfl | hmem
    · refine ⟨schema, hschema, ?_⟩
      rw [find?_of_extend_of_not_mem h hnodup.1, Named.find?_put, if_pos rfl]
    · exact ih h hnodup.2 hmem

theorem outcome_ofDocument_eq_ok {document : Value} :
    (ofDocument document).outcome = .ok table ↔
      (extend [] (componentNodes document)).outcome = .ok table := by
  rw [ofDocument, Report.outcome_bind_eq_ok]
  constructor
  · rintro ⟨_, h, ⟨⟩⟩
    exact h
  · exact fun h ↦ ⟨table, h, rfl⟩

end SchemaTable

namespace Document

/-- The component schemas of a document: nodes with distinct texts for names. -/
structure AreComponents (document : Value) (nodes : Named Value) : Prop where
  stated : (document.get? "components").bind (Value.get? · "schemas") = some (.map nodes.toEntries)
  nodup : nodes.names.Nodup

/-- The pointer to a component schema. -/
def componentPointer (name : String) : String :=
  Pointer.ofKeys ["components", "schemas", name]

/-- A component that is found in the document and in the table alike: its pointer leads to the node,
a schema that consists of the pointer refers to its name, and the table has under that name what the
node resolves to. -/
structure IsFoundAlike (document : Value) (table : SchemaTable) (name : String) (node : Value) :
    Prop where
  resolveReference_eq : resolveReference document (componentPointer name) = pure node
  resolve_eq (schema : Entries) (h : schema.get? "$ref" = some (.text (componentPointer name))) :
    Schema.resolve (some (Named.names table)) (.map schema) =
      pure (.ref (Schema.admitsNull schema) name)
  exists_find? : ∃ schema, (Schema.resolve none node).outcome = .ok schema ∧
    Named.find? table name = some schema

variable {document node : Value} {nodes : Named Value} {table : SchemaTable} {name : String}

theorem AreComponents.componentNodes_eq (h : AreComponents document nodes) :
    componentNodes document = nodes.toEntries := by
  rw [componentNodes, h.stated]

/-- The keys of a component lead to its node. -/
theorem AreComponents.leadsTo (h : AreComponents document nodes) (hmem : (name, node) ∈ nodes) :
    LeadsTo document ["components", "schemas", name] node := by
  obtain ⟨components, hcomponents, hschemas⟩ := Option.bind_eq_some_iff.mp h.stated
  have hname : nodes.toEntries.get? name = some node := by
    rw [Named.get?_toEntries, Named.find?_of_mem h.nodup hmem]
  cases document with
  | map entries =>
    cases components with
    | map inner => exact .under hcomponents (.under hschemas (.under hname (.here node)))
    | _ => cases hschemas
  | _ => cases hcomponents

theorem resolve_componentPointer {schema : Entries}
    (h : schema.get? "$ref" = some (.text (componentPointer name)))
    (hname : name ∈ Named.names table) :
    Schema.resolve (some (Named.names table)) (.map schema) =
      pure (.ref (Schema.admitsNull schema) name) := by
  have hform : Schema.form schema = .reference (.text (componentPointer name)) := by
    rw [Schema.form, h]
  have hnonempty : (componentPointer name == "") = false := by
    rw [beq_eq_false_iff_ne, ne_eq, ← String.toList_inj]
    simp [componentPointer, Pointer.ofKeys]
  have hcomponent : Pointer.componentName (componentPointer name) = name :=
    Pointer.componentName_ofKeys ["components", "schemas"] name
  have hknown : (Named.names table).contains name = true := List.contains_iff_mem.mpr hname
  rw [Schema.resolve_map, hform]
  simp only [Schema.ofReference, hnonempty, hcomponent, Option.all_some, hknown, if_true,
    Bool.false_eq_true, if_false]

theorem AreComponents.isFoundAlike (h : AreComponents document nodes)
    (htable : (SchemaTable.ofDocument document).outcome = .ok table)
    (hmem : (name, node) ∈ nodes) : IsFoundAlike document table name node := by
  rw [SchemaTable.outcome_ofDocument_eq_ok, h.componentNodes_eq] at htable
  obtain ⟨schema, hschema, hfind⟩ := SchemaTable.exists_find?_of_extend htable h.nodup hmem
  have hname : name ∈ Named.names table := List.mem_map_of_mem (Named.mem_of_find? hfind)
  exact ⟨(h.leadsTo hmem).resolveReference_eq (by simp),
    fun _ href ↦ resolve_componentPointer href hname, schema, hschema, hfind⟩

/-- A pointer leads to the node that its keys lead to, and is a missing key where they break off.
The table of a document whose components all resolve has what the pointers of the components lead
to. -/
theorem resolveReference_pointer (document : Value) :
    (∀ keys, keys ≠ [] →
      (∀ node, LeadsTo document keys node →
        resolveReference document (Pointer.ofKeys keys) = pure node) ∧
      (Breaks document keys →
        resolveReference document (Pointer.ofKeys keys) =
          .fail (.missingKey (Pointer.ofKeys keys)))) ∧
    ∀ nodes, AreComponents document nodes →
      ((∃ table, (SchemaTable.ofDocument document).outcome = .ok table) ↔
        ∀ node ∈ nodes, ∃ schema, (Schema.resolve none node.2).outcome = .ok schema) ∧
      ∀ table, (SchemaTable.ofDocument document).outcome = .ok table →
        ∀ name node, (name, node) ∈ nodes → IsFoundAlike document table name node := by
  constructor
  · intro keys hne
    exact ⟨fun node h ↦ h.resolveReference_eq hne, fun h ↦ h.resolveReference_eq hne⟩
  · intro nodes h
    constructor
    · simp only [SchemaTable.outcome_ofDocument_eq_ok, h.componentNodes_eq]
      exact SchemaTable.exists_outcome_extend_iff [] nodes
    · exact fun table htable name node hmem ↦ h.isFoundAlike htable hmem

/-- Components whose names have characters with a meaning in pointers, or none at all. -/
def oddlyNamedNodes : Named Value :=
  [("", .map [(.text "type", .text "string")]), ("a/b", .map [(.text "type", .text "integer")]),
    ("~1", .map [(.text "$ref", .text "#/components/schemas/a~1b")])]

/-- A document with oddly named components. -/
def oddlyNamedDocument : Value :=
  .map [(.text "components", .map [(.text "schemas", .map oddlyNamedNodes.toEntries)])]

theorem resolveReference_oddlyNamed :
    AreComponents oddlyNamedDocument oddlyNamedNodes ∧
      (∃ table, (SchemaTable.ofDocument oddlyNamedDocument).outcome = .ok table ∧
        ∀ name node, (name, node) ∈ oddlyNamedNodes →
          IsFoundAlike oddlyNamedDocument table name node) ∧
      resolveReference oddlyNamedDocument "#/components/schemas/~01" =
        pure (.map [(.text "$ref", .text "#/components/schemas/a~1b")]) ∧
      resolveReference oddlyNamedDocument "#/components//~01" =
        .fail (.missingKey "#/components//~01") := by
  have hcomponents : AreComponents oddlyNamedDocument oddlyNamedNodes := ⟨rfl, by decide⟩
  have hfound : Pointer.ofKeys ["components", "schemas", "~1"] = "#/components/schemas/~01" := by
    decide
  have hlost : Pointer.ofKeys ["components", "", "~1"] = "#/components//~01" := by
    decide
  obtain ⟨hpointers, htables⟩ := resolveReference_pointer oddlyNamedDocument
  obtain ⟨hexists, halike⟩ := htables oddlyNamedNodes hcomponents
  refine ⟨hcomponents, ?_, ?_, ?_⟩
  · have hresolve : ∀ node ∈ oddlyNamedNodes,
        ∃ schema, (Schema.resolve none node.2).outcome = .ok schema := by
      rw [oddlyNamedNodes]
      simp only [List.forall_mem_cons]
      exact ⟨⟨_, rfl⟩, ⟨_, rfl⟩, ⟨_, rfl⟩, nofun⟩
    obtain ⟨table, htable⟩ := hexists.mpr hresolve
    exact ⟨table, htable, halike table htable⟩
  · have hpointer := hpointers ["components", "schemas", "~1"] (by simp)
    rw [← hfound]
    exact hpointer.1 _ (.under rfl (.under rfl (.under rfl (.here _))))
  · have hpointer := hpointers ["components", "", "~1"] (by simp)
    rw [← hlost]
    exact hpointer.2 (.under rfl (.missing rfl))

end Document

end ApiCompiler
