import ApiCompiler.Document.Sample
import ApiCompiler.Proofs.Compile.Procedure
import ApiCompiler.Proofs.Document.Normalise
import ApiCompiler.Proofs.Route.Overlay
import ApiCompiler.Proofs.Schema.TypePart

/-!
# Inline types of parameters

A document of version 2 may state the type of a parameter in the declaration itself. The procedure
of the operation has the schema of the type part for the parameter, and this is the schema of the
declaration exactly when the declaration states nothing besides that its type has a use for.
-/

namespace ApiCompiler

open Document (Operation convertParameter? followed nestType parameterEntries typePart)
open Document.Sample (object)
open Value (Entries Keyed)

variable {document normal node : Entries} {name location : String}

/-- The schema that a route has for a parameter of a query or of its path. -/
def Route.parameterSchema? (route : Route) (name location : String) : Option Schema :=
  if location = "query" then (route.queryParams.find? name).map Prod.snd
  else if location = "path" then route.pathParams.find? name
  else none

namespace Document

/-- A node that declares a parameter by an inline type. -/
structure DeclaresType (name location : String) (node : Entries) : Prop where
  inline : node.has "$ref" = false
  typed : node.has "type" = true
  no_schema : node.has "schema" = false
  name_eq : node.get? "name" = some (.text name)
  location_eq : (node.get? "in").getD (.text "query") = .text location

/-- A declaration of an operation or its path item that no later one takes the place of. -/
def Operation.Declares (document : Value) (name location : String) (node : Entries)
    (operation : Operation) : Prop :=
  ∃ before after, parameterEntries operation.item ++ parameterEntries operation.node =
      before ++ .map node :: after ∧
    ∀ p ∈ Route.declared document (after.filterMap convertParameter?),
      p.isAt name (.text location) = false

/-! ## The converted declaration -/

theorem nestType_eq (h : DeclaresType name location node) :
    nestType node =
      (typeKeys.foldl Keyed.remove node).putText "schema" (.map (typePart node)) := by
  rw [nestType, h.typed, h.no_schema]
  rfl

theorem get?_schema_nestType (h : DeclaresType name location node) :
    (nestType node).get? "schema" = some (.map (typePart node)) := by
  rw [nestType_eq h, Keyed.get?_putText, if_pos rfl]

theorem isLocated_eq_false {other : String} (h : DeclaresType name location node)
    (hother : location ≠ other) : isLocated node other = false := by
  have hlocation := h.location_eq
  rw [isLocated]
  cases hin : node.get? "in" with
  | none => rfl
  | some v =>
    rw [hin, Option.getD_some] at hlocation
    subst hlocation
    simpa [← Bool.not_eq_true, Value.text_equals_iff] using hother

theorem convertParameter?_of_declaresType (h : DeclaresType name location node)
    (hbody : location ≠ "body") (hform : location ≠ "formData") :
    convertParameter? (.map node) = some (.map (nestType node)) := by
  rw [convertParameter?, isLocated_eq_false h hbody, isLocated_eq_false h hform]
  rfl

theorem parameter?_nestType (h : DeclaresType name location node) (document : Value) :
    Route.parameter? (followed document (.map (nestType node))) =
      some ⟨name, .text location, nestType node⟩ := by
  have hinline : Keyed.has (nestType node) "$ref" = false := by
    rw [Keyed.has_eq_isSome, get?_nestType (by decide) (by decide), ← Keyed.has_eq_isSome, h.inline]
  have hname : Keyed.get? (nestType node) "name" = some (.text name) := by
    rw [get?_nestType (by decide) (by decide), h.name_eq]
  have hin : (Keyed.get? (nestType node) "in").getD (.text "query") = .text location := by
    rw [get?_nestType (by decide) (by decide), h.location_eq]
  rw [followed_eq_self (reference?_eq_none_of_has hinline), Route.parameter?, hname]
  simp only [hin]

/-- The declaration counts in the new layout as well, with its type part as its schema. -/
theorem lastDeclared?_converted {document : Value} {operation : Operation}
    (hdeclares : operation.Declares document name location node)
    (h : DeclaresType name location node) (hbody : location ≠ "body")
    (hform : location ≠ "formData") :
    Route.lastDeclared? document operation.converted.node operation.converted.item name location =
      some ⟨name, .text location, nestType node⟩ := by
  obtain ⟨before, after, hentries, hlast⟩ := hdeclares
  have hconverted : Route.parameterList operation.converted.item ++
      Route.parameterList operation.converted.node =
        before.filterMap convertParameter? ++
          .map (nestType node) :: after.filterMap convertParameter? := by
    rw [Operation.converted, parameterList_convertedItem, parameterList_convertOperation,
      convertedParameters, convertedParameters, ← List.filterMap_append, hentries,
      List.filterMap_append, List.filterMap_cons,
      convertParameter?_of_declaresType h hbody hform]
  have hat : (⟨name, .text location, nestType node⟩ : Route.Parameter).isAt name
      (.text location) = true := Route.isAt_text_iff.mpr ⟨rfl, rfl⟩
  have hnone : (Route.declared document (after.filterMap convertParameter?)).reverse.find?
      (fun p ↦ p.isAt name (.text location)) = none := by
    simpa using hlast
  rw [Route.lastDeclared?, hconverted, Route.declared, List.filterMap_append,
    List.filterMap_cons, parameter?_nestType h, List.reverse_append, List.reverse_cons,
    List.append_assoc, List.find?_append, ← Route.declared, hnone, Option.none_or,
    List.singleton_append, List.find?_cons, hat]

end Document

/-! ## The schema of the parameter -/

section

variable {known : Option (List String)}

/-- The schema that a declaration has in the new layout. -/
theorem Document.querySchemaNode_nestType (h : DeclaresType name location node) :
    Route.querySchemaNode (nestType node) = .map (typePart node) := by
  have htruthy : (Value.map (typePart node)).isTruthy = true := by
    have hsome : ((typePart node).get? "type").isSome = true := by
      rw [get?_typePart, if_pos (by decide), ← Keyed.has_eq_isSome, h.typed]
    cases hpart : typePart node with
    | nil =>
      rw [hpart] at hsome
      cases hsome
    | cons => rfl
  rw [Route.querySchemaNode, get?_schema_nestType h]
  exact if_pos htruthy

theorem Document.pathSchema_nestType (h : DeclaresType name location node) :
    Route.pathSchema known name ((nestType node).get? "schema") =
      Schema.resolve known (.map (typePart node)) := by
  have hstates : Route.statesType (.map (typePart node)) = true := by
    have hhas : Keyed.has (typePart node) "type" = true := by
      rw [Keyed.has_eq_isSome, get?_typePart, if_pos (by decide), ← Keyed.has_eq_isSome, h.typed]
    rw [Route.statesType, List.any_cons, hhas, Bool.true_or]
  rw [get?_schema_nestType h]
  exact if_pos hstates

/-- A route has the schema of the type part for a declared parameter. -/
theorem Route.Reads.exists_parameterSchema {document : Value} {operation : Operation}
    {route : Route}
    (hreads : route.Reads document known operation.converted.node operation.converted.item)
    (hdeclares : operation.Declares document name location node)
    (h : Document.DeclaresType name location node)
    (hlocation : location = "query" ∨
      location = "path" ∧ name ∈ PathTemplate.params route.path) :
    ∃ schema, route.parameterSchema? name location = some schema ∧
      (Schema.resolve known (.map (typePart node))).outcome = .ok schema := by
  obtain ⟨parameters, hparameters, hpath, hqueries⟩ := hreads.exists_parameters
  have hfound (hbody : location ≠ "body") (hform : location ≠ "formData") :
      parameters.find? (fun p ↦ p.isAt name (.text location)) =
        some ⟨name, .text location, nestType node⟩ := by
    rw [find?_of_collectParameters hparameters,
      Document.lastDeclared?_converted hdeclares h hbody hform]
  rcases hlocation with rfl | ⟨rfl, hname⟩
  · obtain ⟨schema, hschema, hquery⟩ :=
      find?_of_querySchemas hqueries (hfound (by decide) (by decide))
    rw [Document.querySchemaNode_nestType h] at hschema
    exact ⟨schema, by rw [parameterSchema?, if_pos rfl, hquery]; rfl, hschema⟩
  · obtain ⟨schema, hschema, htemplate⟩ := find?_of_pathSchemas hpath hname
    rw [hfound (by decide) (by decide), Option.bind_some, Document.pathSchema_nestType h]
      at hschema
    exact ⟨schema, by rw [parameterSchema?, if_neg (by decide), if_pos rfl, htemplate], hschema⟩

end

namespace Compilation

/-- The procedure of an operation of version 2 has a schema for each parameter that the operation or
its path item declares by an inline type. It is the schema of the declaration exactly when the
declaration loses nothing on the way to the new layout. -/
theorem parameterSchema?_iff_losesNothing {overrides : Overrides} {compilation : Compilation}
    {operation : Operation} {resource : String} (hlegacy : Document.isLegacy document = true)
    (hnormal : (Document.normalise document).outcome = .ok normal)
    (hcompiles : (ofDocument (.map normal) overrides).outcome = .ok compilation)
    (hoperation : operation ∈ Document.operations (.map document))
    (hresource : operation.resource? = some resource)
    (hdeclares : operation.Declares (.map normal) name location node)
    (hnode : Document.DeclaresType name location node)
    (hlocation : location = "query" ∨ location = "path" ∧ ∃ path,
      operation.path = .text path ∧ name ∈ PathTemplate.params path) :
    ∃ p ∈ compilation.registry.proceduresOf resource,
      (p.route.method, .text p.route.path) = operation.place ∧
      ∃ schema, p.route.parameterSchema? name location = some schema ∧
        ((Schema.resolve (some compilation.table.names) (.map node)).outcome = .ok schema ↔
          Schema.LosesNothing node) := by
  have hconverted : operation.converted ∈ Document.operations (.map normal) := by
    rw [Document.operations_normalise hlegacy hnormal]
    exact List.mem_map_of_mem hoperation
  obtain ⟨route, hroute, p, hp, heq⟩ := exists_procedure_of_mem hcompiles hconverted hresource
  have hnamed := Route.isNamedAfter_of_ofOperation hroute
  have hpath : operation.path = .text route.path := hnamed.path_eq
  have hmethod : route.method = operation.method :=
    hnamed.method_eq.trans
      (Document.lower_of_mem_httpMethods (Document.of_mem_operations hoperation).1)
  have hplace : (p.route.method, .text p.route.path) = operation.place := by
    rw [heq, Operation.place, hpath, ← hmethod]
  have hlocated : location = "query" ∨
      location = "path" ∧ name ∈ PathTemplate.params route.path := by
    rcases hlocation with hquery | ⟨hlocation, path, htext, hname⟩
    · exact .inl hquery
    · rw [hpath, Value.text.injEq] at htext
      exact .inr ⟨hlocation, htext ▸ hname⟩
  obtain ⟨schema, hschema, hresolve⟩ :=
    (Route.reads_of_ofOperation hroute).exists_parameterSchema hdeclares hnode hlocated
  have hsame : p.route.parameterSchema? name location = some schema := by
    rw [heq]
    exact hschema
  exact ⟨p, hp, hplace, schema, hsame, Schema.outcome_resolve_eq_iff hnode.inline hresolve⟩

/-- A query parameter that is an integer from one on. -/
def positiveParameter : Entries :=
  [(.text "name", .text "q"), (.text "in", .text "query"), (.text "type", .text "integer"),
    (.text "minimum", .int 1)]

/-- An operation with this parameter. -/
def positiveOperation : Operation where
  method := "get"
  path := .text "/r"
  node := [(.text "parameters", .list [.map positiveParameter])]
  item := [(.text "get", object [("parameters", .list [.map positiveParameter])])]

/-- A document of version 2 with this operation. -/
def positiveDocument : Entries :=
  [(.text "swagger", .text "2.0"), (.text "paths", object [("/r", .map positiveOperation.item)])]

theorem positiveDocument_loses_bound :
    ∃ normal, (Document.normalise positiveDocument).outcome = .ok normal ∧
      ∃ compilation, (ofDocument (.map normal) []).outcome = .ok compilation ∧
        ∃ p ∈ compilation.registry.proceduresOf "r",
          (p.route.method, .text p.route.path) = positiveOperation.place ∧
          ∃ schema, p.route.parameterSchema? "q" "query" = some schema ∧
            (Schema.resolve (some compilation.table.names) (.map positiveParameter)).outcome ≠
              .ok schema := by
  have hcompiles : ∃ normal, (Document.normalise positiveDocument).outcome = .ok normal ∧
      (ofDocument (.map normal) []).failure? = none := ⟨_, rfl, by decide +kernel⟩
  obtain ⟨normal, hnormal, hcompiles⟩ := hcompiles
  obtain ⟨compilation, hcompilation⟩ := Report.failure?_eq_none_iff.mp hcompiles
  have hresource : positiveOperation.resource? = some "r" := by decide
  have hdeclares : positiveOperation.Declares (.map normal) "q" "query" positiveParameter :=
    ⟨[], [], rfl, by simp [Route.declared]⟩
  obtain ⟨p, hp, hplace, schema, hschema, hiff⟩ :=
    parameterSchema?_iff_losesNothing (by decide) hnormal hcompilation
      (List.mem_singleton_self _) hresource hdeclares
      ⟨by decide, by decide, by decide, rfl, rfl⟩ (.inl rfl)
  have hlost : ¬ Schema.LosesNothing positiveParameter := fun hnothing ↦
    absurd (hnothing.no_bounds (by decide) (.inr (by decide))) (by decide)
  exact ⟨normal, hnormal, compilation, hcompilation, p, hp, hplace, schema, hschema,
    fun hresolve ↦ hlost (hiff.mp hresolve)⟩

end Compilation

end ApiCompiler
