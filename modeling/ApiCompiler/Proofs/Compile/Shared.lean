import ApiCompiler.Compile
import ApiCompiler.Document.Sample
import ApiCompiler.Proofs.Document.Shared

/-!
# Compilation of documents with shared objects

Documents whose operations are read alike compile alike. So a document of version 2 compiles as the
one with its shared parameters and responses in the places of the references to them, as long as
each of these objects means the same in both layouts.
-/

namespace ApiCompiler.Compilation

open Document (Operation normalise)
open Document.Sample (object)
open Value (Entries)

variable {overrides : Overrides} {document shared : Entries}

/-! ## Documents that are read alike -/

theorem outcome_addOperation_eq {left right : Value} {known : List String}
    {operation twin : Operation} (h : Route.ReadsAlike left right operation twin)
    (registry : Registry) :
    (addOperation left overrides known registry operation).outcome =
      (addOperation right overrides known registry twin).outcome := by
  rw [addOperation, addOperation, Report.outcome_bind, Report.outcome_bind,
    h.outcome_ofOperation_eq]

theorem outcome_addOperations_eq {left right : Value} {known : List String}
    {operations twins : List Operation}
    (h : List.Forall₂ (Route.ReadsAlike left right) operations twins) (registry : Registry) :
    (addOperations left overrides known registry operations).outcome =
      (addOperations right overrides known registry twins).outcome := by
  induction h generalizing registry with
  | nil => rfl
  | cons hfirst _ ih =>
    rw [addOperations, addOperations, Report.outcome_bind, Report.outcome_bind,
      outcome_addOperation_eq hfirst]
    simp only [ih]

theorem outcome_ofDocument_eq {left right : Value}
    (hnodes : componentNodes left = componentNodes right)
    (hoperations : List.Forall₂ (Route.ReadsAlike left right) (Document.operations left)
      (Document.operations right)) :
    (ofDocument left overrides).outcome = (ofDocument right overrides).outcome := by
  have htable : SchemaTable.ofDocument left = SchemaTable.ofDocument right := by
    rw [SchemaTable.ofDocument, SchemaTable.ofDocument, hnodes]
  rw [ofDocument, ofDocument, htable, Report.outcome_bind, Report.outcome_bind]
  simp only [Report.outcome_bind, outcome_addOperations_eq hoperations]

/-! ## Documents of version 2 -/

/-- Compiles a document of either version. -/
def ofStated (document : Entries) (overrides : Overrides) : Report Compilation := do
  ofDocument (.map (← normalise document)) overrides

/-- A document of version 2 compiles alike with references to shared objects and with the objects
in their places, if the objects mean the same in both layouts and no other reference changes its
end. -/
theorem outcome_ofStated_eq (hlegacy : Document.isLegacy document = true)
    (hshares : Document.Shares shared document)
    (hleads : ∀ normal sharedNormal, (normalise document).outcome = .ok normal →
      (normalise shared).outcome = .ok sharedNormal →
      Document.LeadsAlike (.map normal) (.map sharedNormal)) :
    (ofStated shared overrides).outcome = (ofStated document overrides).outcome := by
  rw [ofStated, ofStated, Report.outcome_bind, Report.outcome_bind]
  rcases hshares.normalise_cases hlegacy with
    ⟨normal, sharedNormal, hnormal, hshared⟩ | ⟨failure, hnormal, hshared⟩
  · rw [hnormal, hshared]
    exact outcome_ofDocument_eq (hshares.componentNodes_eq hlegacy hshared hnormal)
      (hshares.readsAlike hlegacy hshared hnormal (hleads normal sharedNormal hnormal hshared))
  · rw [hnormal, hshared]

/-- The paths of a document with one operation that has one parameter. -/
def pathsWith (parameter : Entries) : Value :=
  object [("/r", object [("get", object [("parameters", .list [.map parameter]),
    ("responses", object [("200", object [
      ("schema", object [("$ref", .text "#/definitions/N")])])])])])]

/-- A document of version 2 that states a parameter in its operation. -/
def inlineDocument (parameter : Entries) : Entries :=
  [(.text "swagger", .text "2.0"),
    (.text "definitions", object [("N", object [("type", .text "number")])]),
    (.text "paths", pathsWith parameter)]

/-- The document that states the parameter for its operations to share. -/
def sharedDocument (parameter : Entries) : Entries :=
  [(.text "swagger", .text "2.0"),
    (.text "definitions", object [("N", object [("type", .text "number")])]),
    (.text "parameters", object [("P", .map parameter)]),
    (.text "paths", pathsWith (Document.referenceNode "#/parameters/P"))]

/-- A text in the header. -/
def headerParameter : Entries :=
  [(.text "name", .text "h"), (.text "in", .text "header"), (.text "type", .text "string")]

/-- An integer in the query. -/
def integerParameter : Entries :=
  [(.text "name", .text "q"), (.text "in", .text "query"), (.text "type", .text "integer")]

/-- The names of the query parameters of a registry that are numbers. -/
def numberNames (compilation : Compilation) : List String :=
  compilation.registry.flatMap fun router ↦ router.procedures.flatMap fun p ↦
    p.route.queryParams.filterMap fun (name, _, schema) ↦
      match schema with
      | .number .. => some name
      | _ => none

theorem sharedDocument_compiles_alike :
    (ofStated (sharedDocument headerParameter) []).outcome =
        (ofStated (inlineDocument headerParameter) []).outcome ∧
      (∃ compilation, (ofStated (inlineDocument integerParameter) []).outcome = .ok compilation ∧
        numberNames compilation = ["q"]) ∧
      ∃ compilation, (ofStated (sharedDocument integerParameter) []).outcome = .ok compilation ∧
        numberNames compilation = [] := by
  have hshares : Document.Shares (sharedDocument headerParameter)
      (inlineDocument headerParameter) := by
    have hkeys : Document.keysOf? "#/parameters/P" = some ["parameters", "P"] := by
      decide +kernel
    constructor
    · intro key hkey
      simp only [List.mem_cons, List.not_mem_nil, or_false] at hkey
      rcases hkey with rfl | rfl | rfl <;> rfl
    · refine .cons ⟨rfl, rfl, ?_, .nil, .cons ?_ .nil, .itself _⟩ .nil
      · intro key hparameters _
        simp [Value.Keyed.get?_cons, hparameters.symm]
      · exact .object hkeys rfl (by decide)
          ⟨by decide, .inr (.inr ⟨"header", rfl, by decide, by decide⟩)⟩
  refine ⟨outcome_ofStated_eq (by decide +kernel) hshares ?_, by decide +kernel, by decide +kernel⟩
  intro normal sharedNormal hnormal hshared
  cases hnormal
  cases hshared
  have hreferences : ∀ node ∈ (Value.map (Document.convertPaths
      ((inlineDocument headerParameter).putText "components"
        (Document.adoptedComponents (inlineDocument headerParameter) [])))).parts,
      ∀ reference ∈ Document.reference? node, reference = "#/definitions/N" := by
    decide
  refine Document.leadsAlike_of_forall fun node hnode reference hreference ↦ ?_
  rw [hreferences node hnode reference hreference]
  rfl

end ApiCompiler.Compilation
