import ApiCompiler.PathTemplate
import ApiCompiler.Proofs.Named
import ApiCompiler.Proofs.Report
import ApiCompiler.Proofs.Value.Keyed
import ApiCompiler.Route.Parameter
import Mathlib.Data.List.Nodup

/-!
# Names of parameters

The templates of a path and the query parameters of an operation are listed without repetition. For
the query parameters this rests on how parameters are collected: a declaration with the name and the
location of an earlier one takes its place.
-/

namespace ApiCompiler

namespace PathTemplate

/-- The templates of a path are listed once each. -/
theorem params_nodup (path : String) : (params path).Nodup := by
  have hfold : ∀ (contents : List (List Char)) (names : List String), names.Nodup →
      (contents.foldl (fun names name ↦
        let name := String.ofList name
        if names.contains name then names else names ++ [name]) names).Nodup := by
    intro contents
    induction contents with
    | nil => exact fun names hnames ↦ hnames
    | cons content rest ih =>
      intro names hnames
      rw [List.foldl_cons]
      apply ih
      dsimp only
      split
      · exact hnames
      · next hnew =>
        have hnew : String.ofList content ∉ names := by simpa using hnew
        rw [← List.concat_eq_append]
        exact hnames.concat hnew
  exact hfold _ [] List.nodup_nil

end PathTemplate

namespace Route

variable {document : Value} {known : Option (List String)}

/-! ## Schemas of parameters -/

/-- The schemas of path templates, one after the other. -/
theorem forall₂_of_pathSchemas {parameters : List Parameter} {names : List String}
    {schemas : Named Schema} (h : (pathSchemas known parameters names).outcome = .ok schemas) :
    List.Forall₂ (fun name entry ↦ entry.1 = name ∧
        (pathSchema known name ((parameters.find? fun p ↦ p.isAt name (.text "path")).bind fun p ↦
          p.node.get? "schema")).outcome = .ok entry.2) names schemas := by
  induction names generalizing schemas with
  | nil =>
    cases h
    exact .nil
  | cons name rest ih =>
    rw [pathSchemas, Report.outcome_bind_eq_ok] at h
    obtain ⟨schema, hschema, h⟩ := h
    rw [Report.outcome_bind_eq_ok] at h
    obtain ⟨others, hothers, h⟩ := h
    cases h
    exact .cons ⟨rfl, hschema⟩ (ih hothers)

theorem names_of_pathSchemas {parameters : List Parameter} {names : List String}
    {schemas : Named Schema} (h : (pathSchemas known parameters names).outcome = .ok schemas) :
    schemas.names = names := by
  have hnames : schemas.map Prod.fst = names.map id :=
    map_eq_map_of_forall₂ (fun _ _ hentry ↦ hentry.1) (forall₂_of_pathSchemas h)
  rwa [List.map_id] at hnames

/-- The names of the query parameters among declared parameters. -/
def queryNames (parameters : List Parameter) : List String :=
  (parameters.filter fun p ↦ p.location.equals (.text "query")).map Parameter.name

/-- The schemas of query parameters, one after the other. -/
theorem forall₂_of_querySchemas {parameters : List Parameter} {queries : Properties}
    (h : (querySchemas known parameters).outcome = .ok queries) :
    List.Forall₂ (fun p entry ↦ entry.1 = p.name ∧
        entry.2.1 = Schema.flagged p.node "required" ∧
        (Schema.resolve known (querySchemaNode p.node)).outcome = .ok entry.2.2)
      (parameters.filter fun p ↦ p.location.equals (.text "query")) queries := by
  induction parameters generalizing queries with
  | nil =>
    cases h
    exact .nil
  | cons p rest ih =>
    rw [querySchemas] at h
    cases hquery : p.location.equals (.text "query") with
    | false =>
      rw [hquery] at h
      rw [List.filter_cons, hquery]
      exact ih h
    | true =>
      rw [hquery, if_pos rfl, Report.outcome_bind_eq_ok] at h
      obtain ⟨schema, hschema, h⟩ := h
      rw [Report.outcome_bind_eq_ok] at h
      obtain ⟨others, hothers, h⟩ := h
      cases h
      rw [List.filter_cons, hquery]
      exact .cons ⟨rfl, rfl, hschema⟩ (ih hothers)

theorem names_of_querySchemas {parameters : List Parameter} {queries : Properties}
    (h : (querySchemas known parameters).outcome = .ok queries) :
    queries.names = queryNames parameters :=
  map_eq_map_of_forall₂ (fun _ _ hentry ↦ hentry.1) (forall₂_of_querySchemas h)

/-! ## Collected parameters -/

theorem queryNames_putParameter_of_exists {parameters : List Parameter} {p : Parameter}
    (h : ∃ q ∈ parameters, q.isAt p.name p.location = true) :
    queryNames (putParameter parameters p) = queryNames parameters := by
  induction parameters with
  | nil => simp at h
  | cons q rest ih =>
    rw [putParameter]
    cases hat : q.isAt p.name p.location with
    | true =>
      have hname : q.name = p.name := by simpa using (Bool.and_eq_true_iff.mp hat).1
      simp only [if_true, queryNames, List.filter_cons]
      split <;> simp [hname]
    | false =>
      obtain ⟨r, hr, hrat⟩ := h
      rcases List.mem_cons.mp hr with rfl | hr
      · simp [hat] at hrat
      · have hrest := ih ⟨r, hr, hrat⟩
        simp only [queryNames, Bool.false_eq_true, if_false, List.filter_cons] at hrest ⊢
        split
        · rw [List.map_cons, List.map_cons, hrest]
        · exact hrest

theorem putParameter_of_forall {parameters : List Parameter} {p : Parameter}
    (h : ∀ q ∈ parameters, q.isAt p.name p.location = false) :
    putParameter parameters p = parameters ++ [p] := by
  induction parameters with
  | nil => rfl
  | cons q rest ih =>
    rw [putParameter, h q (by simp), ih fun r hr ↦ h r (List.mem_cons_of_mem q hr)]
    rfl

theorem queryNames_putParameter_nodup {parameters : List Parameter}
    (h : (queryNames parameters).Nodup) (p : Parameter) :
    (queryNames (putParameter parameters p)).Nodup := by
  by_cases hat : ∃ q ∈ parameters, q.isAt p.name p.location = true
  · rw [queryNames_putParameter_of_exists hat]
    exact h
  · have hnone : ∀ q ∈ parameters, q.isAt p.name p.location = false := by simpa using hat
    rw [putParameter_of_forall hnone, queryNames, List.filter_append, List.map_append]
    cases hquery : p.location.equals (.text "query") with
    | false =>
      rw [List.filter_singleton, hquery]
      simpa [queryNames] using h
    | true =>
      rw [List.filter_singleton, hquery, cond_true, List.map_singleton, ← List.concat_eq_append]
      refine h.concat fun hmem ↦ ?_
      -- a query parameter of this name would have been found at the name and the location
      obtain ⟨q, hq, hname⟩ := List.mem_map.mp hmem
      obtain ⟨hq, hlocation⟩ := List.mem_filter.mp hq
      have hfree := hnone q hq
      rw [Value.equals_text_iff.mp hquery] at hfree
      rw [Parameter.isAt, hname, hlocation] at hfree
      simp at hfree

theorem queryNames_collectFrom_nodup {known collected : List Parameter} {nodes : List Value}
    (h : (queryNames known).Nodup)
    (hcollected : (collectFrom document known nodes).outcome = .ok collected) :
    (queryNames collected).Nodup := by
  induction nodes generalizing known with
  | nil =>
    cases hcollected
    exact h
  | cons node rest ih =>
    rw [collectFrom, Report.outcome_bind_eq_ok] at hcollected
    obtain ⟨target, _, hcollected⟩ := hcollected
    split at hcollected
    · exact ih h hcollected
    · next p _ =>
      split at hcollected
      · exact ih (queryNames_putParameter_nodup h p) hcollected
      · cases hcollected

/-- The query parameters of an operation are listed once each. -/
theorem queryNames_collectParameters_nodup {operation item : Value.Entries}
    {parameters : List Parameter}
    (h : (collectParameters document operation item).outcome = .ok parameters) :
    (queryNames parameters).Nodup := by
  rw [collectParameters, Report.outcome_bind_eq_ok] at h
  obtain ⟨shared, hshared, h⟩ := h
  have hnil : (queryNames []).Nodup := List.nodup_nil
  exact queryNames_collectFrom_nodup (queryNames_collectFrom_nodup hnil hshared) h

end Route

end ApiCompiler
