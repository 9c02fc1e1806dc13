import ApiCompiler.Document.Aliased
import ApiCompiler.Json
import ApiCompiler.Value.Compact
import ApiCompiler.Yaml.Reading

/-!
# Documents from text

A document is written in bracket notation or, failing that, in indented notation, and has to be a
mapping. Parsing names its source in what it reports.
-/

namespace ApiCompiler.Document

/-- A document of which some parts stand in several places. -/
structure Aliases where
  /-- The document with its parts. -/
  graph : Graph
  /-- The number of parts that a path in it may pass more than once. -/
  again : Nat

/-- A parsed document. -/
structure Parsed where
  /-- The entries of the document. -/
  entries : Value.Entries
  /-- The document with its parts, where some of them are shared. -/
  aliases : Option Aliases := none

/-- A path through a part of itself may pass this many parts again, and one more for each slash of
the document, since a reference has no more keys than slashes. -/
def leastAgain : Nat := 256

/-- A value in indented notation as a document. -/
def Parsed.ofReading (text source : String) (reading : Yaml.Reading) : Report Parsed :=
  match reading.graph.cell reading.graph.root with
  | .map _ =>
    let again := leastAgain + text.toList.count '/'
    let entries := (reading.graph.value again).map?.getD []
    pure ⟨entries, if reading.aliased then some ⟨reading.graph, again⟩ else none⟩
  | _ => .fail (.retrieval source .notMapping)

/-- The document that a text stands for. -/
def parse (text source : String) : Report Parsed :=
  match Json.read text with
  | .ok (.map entries) => pure { entries }
  | .ok _ => .fail (.retrieval source .notMapping)
  | .error (.tooDeep part) => .fail (.endless (some part))
  | .error .malformed =>
    match Yaml.read text with
    | .ok reading => Parsed.ofReading text source reading
    | .error .malformed => .fail (.retrieval source .notParsable)
    | .error (.scalar fault) => .fail (.scalar fault)

/-- A parsed document in the layout of version 3. -/
def Parsed.normalise (document : Parsed) : Report Value.Entries :=
  match document.aliases with
  | some aliases =>
    if isLegacy document.entries then do
      let normal ← Aliased.normalise aliases.graph (statedVersion document.entries)
      return (normal.value aliases.again).map?.getD []
    else pure document.entries
  | none => Document.normalise document.entries

/-- The compact text of a value, if it can be written. -/
def written (v : Value) : Report String :=
  if v.isTooDeep then .fail (.endless none)
  else match v.writeFault? with
  | none => pure v.compact
  | some .endless => .fail (.endless none)
  | some .tooLong => .fail .tooLong

end ApiCompiler.Document
