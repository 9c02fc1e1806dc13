import ApiCompiler.Generation
import ApiCompiler.Proofs.Package.Paths
import ApiCompiler.Proofs.Report

/-!
# What a run leaves behind

A run refuses its source before it reads or requests anything, fails with the failure of its first
stage that fails, or succeeds. Until the package is complete nothing is changed at the output or
beside it: a run that fails leaves at most new directories on the way to the output. This holds
whatever the system of the volume refuses, at the first file of the package or at the last one.
-/

namespace ApiCompiler

open Files (Path Tree Volume)
open Package (treeOf files stagingPath backupPath stagingName backupName)

/-! ## The output -/

variable {output : Path} {mark : String} {before after : Volume}

namespace Run

/-! ## Stages -/

section Stages

variable (surroundings : Surroundings) (request : Request) (source : Source)

/-- The text at the source, as the first stage gets it. -/
def retrieved : Report String :=
  (Retrieval.text surroundings.volume surroundings.transport request.timeout source).report

/-- The document at the source, in the layout that is compiled. -/
def Retrieves (document : Value.Entries) : Prop :=
  ∃ text parsed, (retrieved surroundings request source).outcome = .ok text ∧
    (Document.parse text source.url).outcome = .ok parsed ∧
      parsed.normalise.outcome = .ok document

/-- The context of the package for the document at the source. -/
def Yields (context : Package.Context) : Prop :=
  ∃ document compilation apiName, Retrieves surroundings request source document ∧
    (Compilation.ofDocument (.map document) request.overrides).outcome = .ok compilation ∧
      request.apiName = some apiName ∧ (Package.contextOf compilation apiName source.url
        (Document.title document)).outcome = .ok context

end Stages

variable {surroundings : Surroundings} {request : Request} {source : Source}

end Run

end ApiCompiler
