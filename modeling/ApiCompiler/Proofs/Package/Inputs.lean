import ApiCompiler.Document.Sample
import ApiCompiler.Proofs.Package.Context

/-!
# Inputs of the procedures of a package

Whether the procedures of a compiled document keep the inputs that their calls read. Procedures are
kept apart by name, but inputs by the Pascal spelling of the name: where two names of a router have
one spelling, the later procedure replaces the input of the earlier one, whose call may then read
properties that are gone. Where the spellings are distinct, everything that a call binds is a field
of the model that its procedure is written with.
-/

namespace ApiCompiler

/-- A router whose procedures have names with distinct Pascal spellings. -/
def Router.IsSpelledApart (router : Router) : Prop :=
  (router.procedures.map fun p ↦ Naming.pascal p.route.name).Nodup

namespace Package

open Document.Sample (object)

/-- A procedure that is written with a model which has everything that its call binds. -/
def HasBoundKeys (context : RouterContext) (p : Procedure) (endpoint : Endpoint) : Prop :=
  ∃ model ∈ context.models, model.name = endpoint.inputModel ∧
    ∃ call, p.call = some call ∧
      ∀ key ∈ boundKeys p.route call.arguments, key ∈ model.names.names

variable {router : Router}

/-- A procedure that keeps its input loses none of its properties. -/
theorem not_isLost_of_keepsInputs (h : router.KeepsInputs) (hbound : IsBound router)
    {p : Procedure} (hp : p ∈ router.procedures) (key : String) : ¬ router.IsLost p key := by
  rintro ⟨call, hcall, hkey, schema, hschema, hlost⟩
  obtain ⟨other, hother, hcomplete⟩ := hbound.exists_call p hp
  cases hother.symm.trans hcall
  cases hschema.symm.trans (h.find?_schemas p hp)
  exact hlost (boundKeys_subset_inputProperties hcomplete
    (lookups_subset_boundKeys p.route call.arguments hkey))

theorem hasBoundKeys_of_keepsInputs (h : router.KeepsInputs) (hbound : IsBound router)
    {context : RouterContext} (hwritten : IsWrittenRouter router context) :
    List.Forall₂ (fun p pair ↦ HasBoundKeys context p pair.1) router.procedures
      (context.endpoints.zip context.methods) := by
  rw [List.forall₂_iff_zip]
  refine ⟨hwritten.forall_procedure.length_eq, fun {p pair} hpair ↦ ?_⟩
  obtain ⟨model, hmodel, hrendered, schema, hschema, hfields⟩ :=
    (List.forall₂_iff_zip.mp hwritten.forall_procedure).2 hpair
  have hp := (List.of_mem_zip hpair).1
  obtain ⟨call, hcall, hcomplete⟩ := hbound.exists_call p hp
  refine ⟨model, hmodel, hrendered.inputModel_eq.symm, call, hcall, fun key hkey ↦ ?_⟩
  cases hschema.symm.trans (h.find?_schemas p hp)
  rw [hfields.names_eq]
  exact boundKeys_subset_inputProperties hcomplete hkey

/-- The inputs of a compiled document: the schema under a name is the input of the last procedure of
that name; every procedure keeps an input of its own exactly in the routers whose names are spelled
apart, and is then written with a model that has everything its call binds; and the context fails to
find a property exactly when one is lost, which never happens where all names are spelled apart. -/
theorem keepsInputs_iff_isSpelledApart {document : Value} {overrides : Overrides}
    {compilation : Compilation}
    (h : (Compilation.ofDocument document overrides).outcome = .ok compilation) :
    (∀ router ∈ compilation.registry,
      (∀ name, router.schemas.find? name =
        (router.owner? name).map fun p ↦ p.route.inputSchema) ∧
      (router.KeepsInputs ↔ router.IsSpelledApart)) ∧
    ∀ apiName sourceUrl title,
      (∀ context, (contextOf compilation apiName sourceUrl title).outcome = .ok context →
        List.Forall₂ (fun router rendered ↦ router.IsSpelledApart →
            List.Forall₂ (fun p pair ↦ HasBoundKeys rendered p pair.1) router.procedures
              (rendered.endpoints.zip rendered.methods))
          compilation.registry context.routers) ∧
      ((∃ key, (contextOf compilation apiName sourceUrl title).outcome =
          .error (.missingKey key)) ↔
        isRefused compilation = false ∧ ∃ router ∈ compilation.registry,
          ∃ p ∈ router.procedures, ∃ key, router.IsLost p key) ∧
      ((∀ router ∈ compilation.registry, router.IsSpelledApart) →
        ∀ key, (contextOf compilation apiName sourceUrl title).outcome ≠
          .error (.missingKey key)) := by
  have hkeeps : ∀ router ∈ compilation.registry, router.KeepsInputs ↔ router.IsSpelledApart :=
    fun router hrouter ↦ (Compilation.hasInputs_of_mem h hrouter).keepsInputs_iff
  refine ⟨fun router hrouter ↦ ⟨(Compilation.hasInputs_of_mem h hrouter).find?_schemas,
    hkeeps router hrouter⟩, fun apiName sourceUrl title ↦ ⟨?_, exists_missingKey_iff h, ?_⟩⟩
  · intro context hcontext
    have hwritten := forall₂_of_contextOf h hcontext
    refine List.forall₂_iff_zip.mpr ⟨hwritten.length_eq, fun {router rendered} hpair hapart ↦ ?_⟩
    have hrouter := (List.of_mem_zip hpair).1
    exact hasBoundKeys_of_keepsInputs ((hkeeps router hrouter).mpr hapart)
      (isBound_of_mem h hrouter) ((List.forall₂_iff_zip.mp hwritten).2 hpair)
  · intro hapart key hkey
    obtain ⟨_, router, hrouter, p, hp, lost, hlost⟩ := (exists_missingKey_iff h).mp ⟨key, hkey⟩
    exact not_isLost_of_keepsInputs ((hkeeps router hrouter).mpr (hapart router hrouter))
      (isBound_of_mem h hrouter) hp lost hlost

/-- Two operations of a resource whose names differ in the case of their first letter. -/
def clashingDocument : Value :=
  let operation (id : String) := object [("get", object [("operationId", .text id)])]
  object [("paths", object [("/r/\x7bid\x7d", operation "aB"), ("/r/b", operation "AB")])]

/-- The second operation replaces the input of the first one, whose path parameter is lost. -/
theorem clashingDocument_loses_input :
    ∃ compilation, (Compilation.ofDocument clashingDocument []).outcome = .ok compilation ∧
      (∃ router ∈ compilation.registry, ¬ router.IsSpelledApart ∧
        ∃ p ∈ router.procedures, router.IsLost p "id") ∧
      ∀ apiName sourceUrl title, ∃ key,
        (contextOf compilation apiName sourceUrl title).outcome = .error (.missingKey key) := by
  obtain ⟨compilation, h, hrefused, router, hrouter, p, hp, hlost⟩ : ∃ compilation,
      (Compilation.ofDocument clashingDocument []).outcome = .ok compilation ∧
        isRefused compilation = false ∧ ∃ router ∈ compilation.registry,
          ∃ p ∈ router.procedures, router.IsLost p "id" := by
    decide +kernel
  obtain ⟨hinputs, hcontexts⟩ := keepsInputs_iff_isSpelledApart h
  refine ⟨compilation, h, ⟨router, hrouter, fun hapart ↦ ?_, p, hp, hlost⟩, ?_⟩
  · have hkeeps := (hinputs router hrouter).2.mpr hapart
    exact not_isLost_of_keepsInputs hkeeps (isBound_of_mem h hrouter) hp "id" hlost
  · intro apiName sourceUrl title
    exact (hcontexts apiName sourceUrl title).2.1.mpr
      ⟨hrefused, router, hrouter, p, hp, "id", hlost⟩

end Package

end ApiCompiler
