import ApiCompiler.Proofs.Compile
import ApiCompiler.Proofs.Document.Pointer
import ApiCompiler.Proofs.Schema.Form

/-!
# References that lead somewhere

The schemas of operations are resolved with the names of the table, and a reference to any other
name becomes the unknown schema. So whatever a schema of a route or an input of a router refers to,
at any depth, is a component of the table.
-/

namespace ApiCompiler

namespace Schema

mutual
/-- The components that a schema refers to, at any depth. -/
def references : Schema → List String
  | .array _ items => items.references
  | .object _ properties => referencesOfAll properties
  | .ref _ name => [name]
  | _ => []
termination_by structural schema => schema
/-- The components that the schemas of properties refer to. -/
def referencesOfAll : List (String × Bool × Schema) → List String
  | [] => []
  | (_, _, schema) :: rest => schema.references ++ referencesOfAll rest
termination_by structural properties => properties
end

/-- A schema that refers to components of the given names only. -/
def IsClosed (names : List String) (schema : Schema) : Prop :=
  schema.references ⊆ names

variable {names : List String}

theorem isClosed_of_references_eq_nil {schema : Schema} (h : schema.references = []) :
    schema.IsClosed names := by
  rw [IsClosed, h]
  exact List.nil_subset names

theorem referencesOfAll_subset {properties : List (String × Bool × Schema)}
    (h : ∀ property ∈ properties, property.2.2.IsClosed names) :
    referencesOfAll properties ⊆ names := by
  induction properties with
  | nil => exact List.nil_subset names
  | cons property rest ih =>
    obtain ⟨hproperty, hrest⟩ := List.forall_mem_cons.mp h
    exact List.append_subset.mpr ⟨hproperty, ih hrest⟩

/-! ## Resolution -/

theorem isClosed_of_ofReference {nullable : Bool} {reference : Value} {schema : Schema}
    (h : (ofReference (some names) nullable reference).outcome = .ok schema) :
    schema.IsClosed names := by
  unfold ofReference at h
  split at h
  · split at h
    · cases h
      exact List.nil_subset names
    · dsimp only at h
      split at h
      · next hknown =>
        cases h
        rw [Option.all_some, List.contains_iff_mem] at hknown
        exact List.cons_subset.mpr ⟨hknown, List.nil_subset names⟩
      · rw [Report.outcome_bind_eq_ok] at h
        obtain ⟨_, _, h⟩ := h
        cases h
        exact List.nil_subset names
  · cases h
    exact List.nil_subset names

theorem references_ofEnumeration (nullable : Bool) (values : Value) :
    (ofEnumeration nullable values).references = [] := by
  unfold ofEnumeration
  split
  · dsimp only
    split <;> rfl
  · rfl

theorem references_of_ofPlain {declared : Option String} {nullable : Bool} {node : Value.Entries}
    {schema : Schema} (h : (ofPlain declared nullable node).outcome = .ok schema) :
    schema.references = [] := by
  unfold ofPlain at h
  split at h
  · rw [Report.outcome_bind_eq_ok] at h
    obtain ⟨_, _, h⟩ := h
    cases h
    rfl
  all_goals
    cases h
    rfl

/-- Resolved with the names of a table, a node refers to these names only. -/
theorem isClosed_of_resolve (node : Value) {schema : Schema}
    (h : (resolve (some names) node).outcome = .ok schema) : schema.IsClosed names := by
  induction node using node_induction generalizing schema with
  | other v hv =>
    rw [eq_unknown_of_resolve hv h]
    exact List.nil_subset names
  | map node ihItems ihProperties =>
    rw [resolve_map] at h
    split at h
    · exact isClosed_of_ofReference h
    · cases h
      exact isClosed_of_references_eq_nil (references_ofEnumeration _ _)
    · rw [Report.outcome_bind_eq_ok] at h
      obtain ⟨items, hitems, h⟩ := h
      cases h
      exact (ihItems hitems : items.IsClosed names)
    · rw [Report.outcome_bind_eq_ok] at h
      obtain ⟨properties, hproperties, h⟩ := h
      cases h
      refine referencesOfAll_subset fun property hproperty ↦ ?_
      obtain ⟨entry, hentry, hproperty⟩ := exists_mem_of_forall₂
        (forall₂_of_resolveEach hproperties) (Named.mem_of_mem_ofPairs hproperty)
      exact ihProperties entry hentry hproperty.resolves
    · exact isClosed_of_references_eq_nil (references_of_ofPlain h)

end Schema

variable {names : List String}

/-! ## Routes -/

namespace Route

/-- A route whose schemas refer to components of the given names only. -/
structure IsClosed (names : List String) (route : Route) : Prop where
  pathParams : ∀ entry ∈ route.pathParams, entry.2.IsClosed names
  queryParams : ∀ entry ∈ route.queryParams, entry.2.2.IsClosed names
  body : ∀ schema ∈ route.body, schema.IsClosed names
  response : route.response.IsClosed names

variable {document path : Value} {method : String} {operation item : Value.Entries}

theorem isClosed_of_pathSchema {name : String} {declared : Option Value} {schema : Schema}
    (h : (pathSchema (some names) name declared).outcome = .ok schema) :
    schema.IsClosed names := by
  have hguess : (pathSchema.guess name).IsClosed names := by
    apply Schema.isClosed_of_references_eq_nil
    unfold pathSchema.guess
    split <;> rfl
  unfold pathSchema at h
  split at h
  · split at h
    · exact Schema.isClosed_of_resolve _ h
    · cases h
      exact hguess
  · cases h
    exact hguess

theorem isClosed_of_pathSchemas {parameters : List Parameter} {params : List String}
    {schemas : Named Schema}
    (h : (pathSchemas (some names) parameters params).outcome = .ok schemas) :
    ∀ entry ∈ schemas, entry.2.IsClosed names := by
  intro entry hentry
  obtain ⟨_, _, _, hschema⟩ := exists_mem_of_forall₂ (forall₂_of_pathSchemas h) hentry
  exact isClosed_of_pathSchema hschema

theorem isClosed_of_querySchemas {parameters : List Parameter} {queries : Properties}
    (h : (querySchemas (some names) parameters).outcome = .ok queries) :
    ∀ entry ∈ queries, entry.2.2.IsClosed names := by
  intro entry hentry
  obtain ⟨_, _, _, _, hschema⟩ := exists_mem_of_forall₂ (forall₂_of_querySchemas h) hentry
  exact Schema.isClosed_of_resolve _ hschema

theorem isClosed_of_bodyOf {body : Option Schema × Bool}
    (h : (bodyOf document (some names) operation).outcome = .ok body) :
    ∀ schema ∈ body.1, schema.IsClosed names := by
  rw [bodyOf, Report.outcome_bind_eq_ok] at h
  obtain ⟨container, _, h⟩ := h
  split at h
  · cases h
    simp
  · rw [Report.outcome_bind_eq_ok] at h
    obtain ⟨schema, hschema, h⟩ := h
    cases h
    simpa using Schema.isClosed_of_resolve _ hschema

theorem isClosed_of_responseOf {schema : Schema}
    (h : (responseOf document (some names) operation).outcome = .ok schema) :
    schema.IsClosed names := by
  rw [responseOf, Report.outcome_bind_eq_ok] at h
  obtain ⟨container, _, h⟩ := h
  split at h
  · cases h
    exact List.nil_subset names
  · exact Schema.isClosed_of_resolve _ h

/-- The schemas of a route are resolved with the names that are known. -/
theorem isClosed_of_ofOperation {route : Route}
    (h : (ofOperation document (some names) method path operation item).outcome =
      .ok (some route)) : route.IsClosed names := by
  obtain ⟨parameters, hread⟩ := exists_isReadFrom h
  exact ⟨isClosed_of_pathSchemas hread.pathParams_eq, isClosed_of_querySchemas hread.queryParams_eq,
    isClosed_of_bodyOf hread.body_eq, isClosed_of_responseOf hread.response_eq⟩

/-- The input of a route refers to what its parameters and its body refer to. -/
theorem IsClosed.inputSchema {route : Route} (h : route.IsClosed names) :
    route.inputSchema.IsClosed names := by
  refine Schema.referencesOfAll_subset fun property hproperty ↦ ?_
  rw [inputProperties, List.mem_append, List.mem_append] at hproperty
  rcases hproperty with (hpath | hquery) | hbody
  · obtain ⟨entry, hentry, rfl⟩ := List.mem_map.mp hpath
    exact h.pathParams entry hentry
  · exact h.queryParams property (List.mem_of_mem_filter hquery)
  · simp only [Option.mem_toList, Option.map_eq_some_iff] at hbody
    obtain ⟨schema, hschema, rfl⟩ := hbody
    exact h.body schema hschema

end Route

/-! ## Routers -/

/-- A router whose inputs and responses refer to components of the given names only; inputs have
distinct names. -/
structure Router.IsClosed (names : List String) (router : Router) : Prop where
  schemas_nodup : router.schemas.names.Nodup
  schemas : ∀ entry ∈ router.schemas, entry.2.IsClosed names
  responses : ∀ p ∈ router.procedures, p.route.response.IsClosed names

theorem Router.IsClosed.withProcedureFor {router : Router} (h : router.IsClosed names)
    {route : Route} (hroute : route.IsClosed names) (call : Option Call) :
    (router.withProcedure (router.procedureFor route call)).IsClosed names where
  schemas_nodup := Named.names_put_nodup h.schemas_nodup _ _
  schemas entry hentry := by
    rcases Named.mem_of_mem_put hentry with rfl | hentry
    · -- the procedure has the input of the route, which does not depend on the name
      exact hroute.inputSchema
    · exact h.schemas entry hentry
  responses p hp := by
    rcases List.mem_append.mp hp with hp | hp
    · exact h.responses p hp
    · rw [List.mem_singleton.mp hp]
      exact hroute.response

/-! ## Compiled documents -/

/-- The table has one entry under each name. -/
theorem SchemaTable.names_nodup_of_ofDocument {document : Value} {table : SchemaTable}
    (h : (SchemaTable.ofDocument document).outcome = .ok table) : (Named.names table).Nodup := by
  have hextend (entries : Value.Entries) (start final : SchemaTable)
      (hstart : (Named.names start).Nodup)
      (h : (SchemaTable.extend start entries).outcome = .ok final) : (Named.names final).Nodup := by
    induction entries generalizing start with
    | nil =>
      cases h
      exact hstart
    | cons entry rest ih =>
      simp only [SchemaTable.extend, Report.outcome_bind_eq_ok] at h
      obtain ⟨schema, _, name, _, h⟩ := h
      exact ih _ (Named.names_put_nodup hstart _ _) h
  exact hextend _ [] _ List.nodup_nil (outcome_ofDocument_eq_ok.mp h)

namespace Compilation

variable {document : Value} {overrides : Overrides} {compilation : Compilation}

/-- The routers of a compiled document refer to components of its table only. -/
theorem isClosed_of_mem (h : (ofDocument document overrides).outcome = .ok compilation)
    {router : Router} (hrouter : router ∈ compilation.registry) :
    router.IsClosed (Named.names compilation.table) := by
  obtain ⟨steps, hsteps, hforall⟩ := exists_addAll_of_forall
    (P := fun step ↦ step.1.IsClosed (Named.names compilation.table))
    (fun _ _ _ _ hroute _ ↦ Route.isClosed_of_ofOperation hroute) h
  refine Registry.forall_router_of_addAll
    (P := fun router ↦ router.IsClosed (Named.names compilation.table)) (fun registry resource ↦ ?_)
    (fun router hclosed step hstep ↦ hclosed.withProcedureFor (hforall step hstep) step.2) (by simp)
    hsteps router hrouter
  exact ⟨List.nodup_nil, by simp [Registry.newRouter], by simp [Registry.newRouter]⟩

theorem names_table_nodup (h : (ofDocument document overrides).outcome = .ok compilation) :
    (Named.names compilation.table).Nodup := by
  exact SchemaTable.names_nodup_of_ofDocument (outcome_ofDocument_eq_ok_iff.mp h).1

end Compilation

end ApiCompiler
