import ApiCompiler.Document.Parse
import ApiCompiler.Proofs.Compile.Shared
import ApiCompiler.Proofs.Document.Pushed

/-!
# Compilation with parameters pushed down

A document compiles as the one whose path items have their parameters in the operations, if no
reference leads into the paths. Parameters in a body are no exception: the body of a path item comes
second to the one that an operation states, as the last of the parameters put together does.

The text of a document may use one operation in several path items. In the layout of version 3 such
an operation has one body, whichever of its path items states it.
-/

namespace ApiCompiler.Compilation

open Document (Operation isLegacy normalise pushDown)
open Document.Sample (object)
open Value (Entries)

variable {overrides : Overrides} {document : Entries}

theorem outcome_normalise_of_not_isLegacy (h : isLegacy document = false) :
    (normalise document).outcome = .ok document := by
  rw [normalise, h]
  rfl

/-- The operations of a document and of the pushed one are read alike if those of the one have been
brought about from those of the other in a way that keeps what they state. -/
theorem readsAlike_pushDown {left right : Entries} (change : Operation → Operation)
    (hleft : Document.operations (.map left) =
      (Document.operations (.map document)).map fun operation ↦ change operation.pushed)
    (hright : Document.operations (.map right) =
      (Document.operations (.map document)).map change)
    (hstates : ∀ operation : Operation, (change operation.pushed).StatesSame (change operation))
    (hfollowed : ∀ operation ∈ Document.operations (.map document),
      ∀ node ∈ (change operation).nodes,
        Document.followed (.map left) node = Document.followed (.map right) node) :
    List.Forall₂ (Route.ReadsAlike (.map left) (.map right)) (Document.operations (.map left))
      (Document.operations (.map right)) := by
  rw [hleft, hright, List.forall₂_map_left_iff, List.forall₂_map_right_iff, List.forall₂_same]
  intro operation hoperation
  exact (hstates operation).readsAlike (hfollowed operation hoperation)

/-- A document in the layout that is compiled compiles alike with the parameters of its path items in
the operations below them. -/
theorem outcome_ofDocument_pushDown (hclear : Document.IsClear (.map document)) :
    (ofDocument (.map (pushDown document)) overrides).outcome =
      (ofDocument (.map document) overrides).outcome := by
  have hget (key : String) (hkey : key ≠ "paths") :
      (pushDown document).get? key = document.get? key :=
    Document.get?_pushDown_of_ne hkey
  refine outcome_ofDocument_eq ?_ ?_
  · exact Document.componentNodes_eq_of_get?_eq (hget _ (by decide)) (hget _ (by decide))
  · refine readsAlike_pushDown id (Document.operations_pushDown document) (List.map_id _).symm
      Operation.pushed_statesSame fun operation hoperation node hnode ↦ ?_
    refine (Document.followed_eq_of_staysOut (fun key hkey ↦ (hget key hkey).symm) ?_
      (Document.staysOut_of_mem_nodes hclear hoperation node hnode)).symm
    exact fun key v _ hv ↦ hclear.get? hv

/-- What a version 2 document and the pushed one are converted to compiles alike. -/
theorem outcome_ofDocument_normalised {normal pushedNormal : Entries}
    (hclear : Document.IsClear (.map document)) (hlegacy : isLegacy document = true)
    (hpushedLegacy : isLegacy (pushDown document) = true)
    (hnormal : (normalise document).outcome = .ok normal)
    (hpushed : (normalise (pushDown document)).outcome = .ok pushedNormal) :
    (ofDocument (.map pushedNormal) overrides).outcome =
      (ofDocument (.map normal) overrides).outcome := by
  have hget (key : String) (hkey : key ≠ "paths") :
      (pushDown document).get? key = document.get? key :=
    Document.get?_pushDown_of_ne hkey
  have hcomponents : pushedNormal.get? "components" = normal.get? "components" :=
    Document.get?_components_eq_of_normalise hlegacy hpushedLegacy (hget _ (by decide))
      (hget _ (by decide)) hnormal hpushed
  have hsame (key : String) (hkey : key ≠ "paths") : normal.get? key = pushedNormal.get? key := by
    by_cases hkind : key = "components"
    · rw [hkind, hcomponents]
    · rw [Document.get?_normalise_of_ne hlegacy hnormal hkey hkind,
        Document.get?_normalise_of_ne hpushedLegacy hpushed hkey hkind, hget key hkey]
  refine outcome_ofDocument_eq ?_ ?_
  · exact Document.componentNodes_eq_of_get?_eq hcomponents (hsame _ (by decide)).symm
  · refine readsAlike_pushDown Operation.converted ?_
      (Document.operations_normalise hlegacy hnormal) Operation.converted_pushed_statesSame
      fun operation hoperation node hnode ↦ ?_
    · rw [Document.operations_normalise hpushedLegacy hpushed, Document.operations_pushDown,
        List.map_map]
      rfl
    · refine (Document.followed_eq_of_staysOut hsame ?_ (Document.staysOut_of_mem_nodes_converted
        (Document.staysOut_of_mem_nodes hclear hoperation) node hnode)).symm
      exact fun key v hkey hv ↦ hclear.get?_normalise hlegacy hnormal hkey hv

/-- A document of any version compiles alike with the parameters of its path items in the operations
below them. -/
theorem outcome_ofStated_pushDown (hclear : Document.IsClear (.map document)) :
    (ofStated (pushDown document) overrides).outcome = (ofStated document overrides).outcome := by
  have hget (key : String) (hkey : key ≠ "paths") :
      (pushDown document).get? key = document.get? key :=
    Document.get?_pushDown_of_ne hkey
  have hversion : isLegacy (pushDown document) = isLegacy document := by
    rw [isLegacy, isLegacy, Document.statedVersion, Document.statedVersion,
      hget "swagger" (by decide)]
  rw [ofStated, ofStated, Report.outcome_bind, Report.outcome_bind]
  cases hlegacy : isLegacy document with
  | false =>
    rw [outcome_normalise_of_not_isLegacy hlegacy,
      outcome_normalise_of_not_isLegacy (hversion.trans hlegacy)]
    exact outcome_ofDocument_pushDown hclear
  | true =>
    have hpushedLegacy : isLegacy (pushDown document) = true := hversion.trans hlegacy
    rcases Document.normalise_cases hlegacy hpushedLegacy (hget "components" (by decide)) with
      ⟨normal, pushedNormal, hnormal, hpushed⟩ | ⟨failure, hnormal, hpushed⟩
    · rw [hnormal, hpushed]
      exact outcome_ofDocument_normalised hclear hlegacy hpushedLegacy hnormal hpushed
    · rw [hnormal, hpushed]

/-! ## Parsed documents -/

/-- Compiles a parsed document of either version. -/
def ofParsed (document : Document.Parsed) (overrides : Overrides) : Report Compilation := do
  ofDocument (.map (← document.normalise)) overrides

/-- A parsed document without shared parts, or of a version that is not converted, compiles as the
one whose path items have their parameters in the operations below them. -/
theorem outcome_ofParsed_eq {parsed : Document.Parsed}
    (hclear : Document.IsClear (.map parsed.entries))
    (hkept : parsed.aliases = none ∨ isLegacy parsed.entries = false) :
    (ofParsed parsed overrides).outcome =
      (ofStated (pushDown parsed.entries) overrides).outcome := by
  have hnormalise : parsed.normalise.outcome = (normalise parsed.entries).outcome := by
    rw [Document.Parsed.normalise]
    cases haliases : parsed.aliases with
    | none => rfl
    | some aliases =>
      have hlegacy : isLegacy parsed.entries = false := by simpa [haliases] using hkept
      rw [outcome_normalise_of_not_isLegacy hlegacy]
      dsimp only
      rw [hlegacy]
      rfl
  rw [outcome_ofStated_pushDown hclear, ofParsed, ofStated, Report.outcome_bind,
    Report.outcome_bind, hnormalise]

/-- A document of version 2 with parameters in a path item, one of them in a body and one behind a
reference, of which its operation declares one again. -/
def overlaidDocument : Document.Parsed :=
  { entries := [(.text "swagger", .text "2.0"),
      (.text "parameters", object [("P", .map integerParameter)]),
      (.text "paths", object [("/r", object [
        ("parameters", .list [object [("in", .text "body")],
          .map (Document.referenceNode "#/parameters/P"), .map headerParameter]),
        ("post", object [("parameters", .list [.map integerParameter])])])])] }

/-- A document of version 2 that uses one operation in two path items, of which the first states a
body. -/
def twiceUsedGraph : Graph where
  cells := #[.map [(.text "swagger", 1), (.text "paths", 2)], .atom (.text "2.0"),
    .map [(.text "/a", 3), (.text "/b", 7)], .map [(.text "parameters", 4), (.text "post", 8)],
    .list [5], .map [(.text "in", 6), (.text "schema", 9)], .atom (.text "body"),
    .map [(.text "post", 8)], .map [(.text "operationId", 10)], .map [], .atom (.text "op")]
  root := 0

/-- The document as it is parsed. -/
def twiceUsedDocument : Document.Parsed where
  entries := (twiceUsedGraph.value 0).map?.getD []
  aliases := some ⟨twiceUsedGraph, 0⟩

/-- The paths of a registry whose operations have a body. -/
def bodyPaths (compilation : Compilation) : List String :=
  compilation.registry.flatMap fun router ↦
    (router.procedures.filter fun p ↦ p.route.body.isSome).map fun p ↦ p.route.path

theorem twiceUsedDocument_shares_body :
    (ofParsed overlaidDocument []).outcome =
        (ofStated (pushDown overlaidDocument.entries) []).outcome ∧
      (∃ compilation, (ofParsed twiceUsedDocument []).outcome = .ok compilation ∧
        bodyPaths compilation = ["/a", "/b"]) ∧
      ∃ compilation, (ofStated (pushDown twiceUsedDocument.entries) []).outcome = .ok compilation ∧
        bodyPaths compilation = ["/a"] := by
  have hclear : Document.IsClear (.map overlaidDocument.entries) := by
    have hparts : ∀ part ∈ (Value.map overlaidDocument.entries).parts,
        ∀ reference ∈ Document.reference? part, ¬Document.PointsIntoPaths reference := by
      decide +kernel
    exact hparts
  refine ⟨outcome_ofParsed_eq hclear (.inl rfl), ?_, ?_⟩
  · decide +kernel
  · decide +kernel

end ApiCompiler.Compilation
