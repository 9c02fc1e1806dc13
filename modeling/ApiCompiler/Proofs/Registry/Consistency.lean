import ApiCompiler.Proofs.Named
import ApiCompiler.Proofs.Naming.Identifier
import ApiCompiler.Proofs.Report
import ApiCompiler.Registry

/-!
# Consistency of the registry

A registry is consistent when its routers are kept apart by resource and by namespace, and the
procedures of each router by name and by function. The empty registry is consistent, and adding a
route to a consistent registry never fails and keeps it consistent: the searches for a free name and
for a free namespace end, because the numbers after a name reach its function unchanged.

A router keeps one schema under each input name, and a later procedure of that name replaces it. So
the schema under a name is the input of the last procedure with the name, and every procedure keeps
its own exactly when no two names of procedures have the same Pascal spelling. Spellings may
coincide although names and functions differ: the spelling forgets the case of the first letter of
each word and everything between words.
-/

namespace ApiCompiler

open Naming (IsFirstFree IsUsable)

/-- A router whose procedures are kept apart by name and by function. -/
structure Router.IsConsistent (router : Router) : Prop where
  resource_eq : ∀ p ∈ router.procedures, p.route.resource = router.name
  names_nodup : (router.procedures.map fun p ↦ p.route.name).Nodup
  functions_nodup : (router.procedures.map Procedure.function).Nodup
  function_eq : ∀ p ∈ router.procedures, p.function = Naming.functionOf p.route.name
  function_isUsable : ∀ p ∈ router.procedures, IsUsable Naming.functionReserved p.function
  call_eq : ∀ p ∈ router.procedures, ∀ call ∈ p.call,
    call.resourceNamespace = router.nspace ∧ call.methodName = p.function

/-- A registry whose routers are consistent and kept apart by resource and by namespace. -/
structure Registry.IsConsistent (registry : Registry) : Prop where
  names_nodup : (registry.map Router.name).Nodup
  router_isConsistent : ∀ router ∈ registry, router.IsConsistent
  nspaces_nodup : (registry.map Router.nspace).Nodup
  nspace_isUsable : ∀ router ∈ registry, IsUsable Naming.clientReserved router.nspace

namespace Router

/-! ## A free name -/

theorem isTaken_iff {router : Router} {name : String} :
    router.isTaken name = true ↔
      (∃ p ∈ router.procedures, p.route.name = name) ∨
        Naming.functionOf name ∈ router.procedures.map Procedure.function := by
  simp only [isTaken, List.any_eq_true, Bool.or_eq_true, beq_iff_eq, List.mem_map]
  constructor
  · rintro ⟨p, hp, h | h⟩
    · exact .inl ⟨p, hp, h⟩
    · exact .inr ⟨p, hp, h⟩
  · rintro (⟨p, hp, h⟩ | ⟨p, hp, h⟩)
    · exact ⟨p, hp, .inl h⟩
    · exact ⟨p, hp, .inr h⟩

/-- In a consistent router a name is taken with its function. -/
theorem IsConsistent.isTaken_iff {router : Router} (h : router.IsConsistent) {name : String} :
    router.isTaken name = true ↔
      Naming.functionOf name ∈ router.procedures.map Procedure.function := by
  rw [Router.isTaken_iff]
  refine ⟨?_, .inr⟩
  rintro (⟨p, hp, rfl⟩ | hfunction)
  · exact List.mem_map.mpr ⟨p, hp, h.function_eq p hp⟩
  · exact hfunction

/-- The unbounded search for a free name ends where the bounded one does: each procedure takes at
most one of the numbered candidates. -/
theorem IsConsistent.freeName_isFirstFree {router : Router} (h : router.IsConsistent)
    (route : Route) :
    IsFirstFree (router.isTaken · = true) (Naming.numbered (router.baseName route) "")
      (router.freeName route) := by
  let candidate := Naming.numbered (router.baseName route) ""
  obtain ⟨i, hi, hfree⟩ : ∃ i < 2 * router.procedures.length + 1,
      router.isTaken (candidate i) = false := by
    cases hprocedures : router.procedures with
    | nil => exact ⟨0, by simp, by simp [isTaken, hprocedures]⟩
    | cons p rest =>
      -- the base name may be taken as well, so the free candidate is sought among the numbered ones
      obtain ⟨i, hi, hfree⟩ := Naming.exists_lt_not_mem
        (Naming.functionOf_numbered_injective (router.baseName route))
        (router.procedures.map Procedure.function)
      refine ⟨i + 1, ?_, ?_⟩
      · rw [List.length_map, hprocedures] at hi
        simp only [List.length_cons] at hi ⊢
        omega
      · rw [← Bool.not_eq_true, h.isTaken_iff]
        exact hfree
  have hspec := @Naming.leastFree_spec (fun i ↦ router.isTaken (candidate i)) _ _ hi hfree
  exact ⟨_, rfl, by simpa [freeName, candidate] using hspec.1, hspec.2⟩

theorem IsConsistent.not_isTaken_freeName {router : Router} (h : router.IsConsistent)
    (route : Route) : router.isTaken (router.freeName route) = false := by
  simpa using (h.freeName_isFirstFree route).not_taken

/-! ## Adding a procedure -/

/-- The router with one more procedure, whose input replaces a schema of its name. -/
def withProcedure (router : Router) (procedure : Procedure) : Router :=
  { router with
    schemas := router.schemas.put procedure.inputModel procedure.route.inputSchema
    procedures := router.procedures ++ [procedure] }

theorem outcome_mergeSchema (router : Router) (name : String) (schema : Schema) :
    (router.mergeSchema name schema).outcome =
      .ok { router with schemas := router.schemas.put name schema } := by
  unfold mergeSchema
  split
  · split <;> rfl
  · rfl

theorem outcome_add (router : Router) (route : Route) (call : Option Call) :
    (router.add route call).outcome =
      let procedure := router.procedureFor route call
      .ok (router.withProcedure procedure, procedure) := by
  unfold add
  rw [Report.outcome_bind_of_ok (Report.outcome_forM_note _),
    Report.outcome_bind_of_ok (outcome_mergeSchema _ _ _)]
  rfl

theorem IsConsistent.withProcedureFor {router : Router} (h : router.IsConsistent) {route : Route}
    (hresource : route.resource = router.name) (call : Option Call) :
    (router.withProcedure (router.procedureFor route call)).IsConsistent := by
  have hfree := h.not_isTaken_freeName route
  rw [← Bool.not_eq_true, Router.isTaken_iff, not_or] at hfree
  obtain ⟨hname, hfunction⟩ := hfree
  have hmem {p : Procedure}
      (hp : p ∈ (router.withProcedure (router.procedureFor route call)).procedures) :
      p ∈ router.procedures ∨ p = router.procedureFor route call := by
    simpa [withProcedure] using hp
  constructor
  · intro p hp
    rcases hmem hp with hp | rfl
    · exact h.resource_eq p hp
    · exact hresource
  · rw [withProcedure, List.map_append, List.nodup_append]
    refine ⟨h.names_nodup, by simp, ?_⟩
    rintro name hold other hnew rfl
    obtain ⟨p, hp, rfl⟩ := List.mem_map.mp hold
    rw [List.map_singleton, List.mem_singleton] at hnew
    exact hname ⟨p, hp, hnew⟩
  · rw [withProcedure, List.map_append, List.nodup_append]
    refine ⟨h.functions_nodup, by simp, ?_⟩
    rintro function hold other hnew rfl
    rw [List.map_singleton, List.mem_singleton] at hnew
    rw [hnew] at hold
    exact hfunction hold
  · intro p hp
    rcases hmem hp with hp | rfl
    · exact h.function_eq p hp
    · rfl
  · intro p hp
    rcases hmem hp with hp | rfl
    · exact h.function_isUsable p hp
    · exact Naming.functionOf_isUsable _
  · intro p hp bound hbound
    rcases hmem hp with hp | rfl
    · exact h.call_eq p hp bound hbound
    · obtain ⟨unbound, _, rfl⟩ := Option.map_eq_some_iff.mp hbound
      exact ⟨rfl, rfl⟩

end Router

namespace Registry

/-! ## Routers in their places -/

theorem name_of_find? {registry : Registry} {resource : String} {router : Router}
    (h : registry.find? resource = some router) : router.name = resource := by
  simpa using List.find?_some h

theorem mem_of_find? {registry : Registry} {resource : String} {router : Router}
    (h : registry.find? resource = some router) : router ∈ registry :=
  List.mem_of_find?_eq_some h

theorem not_mem_names_of_find?_eq_none {registry : Registry} {resource : String}
    (h : registry.find? resource = none) : resource ∉ registry.map Router.name := by
  intro hmem
  obtain ⟨router, hrouter, hname⟩ := List.mem_map.mp hmem
  simpa [hname] using List.find?_eq_none.mp h router hrouter

/-- Where resources are kept apart, a router is found under its name. -/
theorem find?_name_of_mem {registry : Registry} (h : (registry.map Router.name).Nodup)
    {router : Router} (hrouter : router ∈ registry) : registry.find? router.name = some router :=
  find?_key_of_mem h hrouter

theorem find?_cons (r : Router) (rest : Registry) (resource : String) :
    find? (r :: rest) resource = if resource = r.name then some r else find? rest resource := by
  rw [find?, List.find?_cons]
  by_cases h : resource = r.name
  · simp [h]
  · rw [beq_eq_false_iff_ne.mpr (Ne.symm h), if_neg h]
    rfl

theorem put_cons (r : Router) (rest : Registry) (router : Router) :
    put (r :: rest) router =
      if router.name = r.name then router :: rest else r :: put rest router := by
  rw [put]
  exact if_congr (beq_iff_eq.trans eq_comm) rfl rfl

theorem put_of_find?_eq_none {registry : Registry} {router : Router}
    (h : registry.find? router.name = none) : registry.put router = registry ++ [router] := by
  induction registry with
  | nil => rfl
  | cons r rest ih =>
    rw [find?_cons] at h
    rw [put_cons]
    split at h
    · cases h
    · next hname => rw [if_neg hname, ih h, List.cons_append]

/-- A router takes the place of the one with its name. -/
theorem exists_append_of_find? {registry : Registry} {router old : Router}
    (h : registry.find? router.name = some old) : ∃ before after : Registry,
      registry = before ++ old :: after ∧ registry.put router = before ++ router :: after := by
  induction registry with
  | nil => cases h
  | cons r rest ih =>
    rw [find?_cons] at h
    rw [put_cons]
    split at h
    · next hname =>
      cases h
      exact ⟨[], rest, rfl, if_pos hname⟩
    · next hname =>
      obtain ⟨before, after, hrest, hput⟩ := ih h
      exact ⟨r :: before, after, congrArg (r :: ·) hrest, by rw [if_neg hname, hput]; rfl⟩

/-- What the replaced router shares with the new one stays as it is. -/
theorem map_put_of_find? {α : Type} {registry : Registry} {router old : Router}
    (h : registry.find? router.name = some old) (f : Router → α) (hf : f router = f old) :
    (registry.put router).map f = registry.map f := by
  obtain ⟨before, after, rfl, hput⟩ := exists_append_of_find? h
  rw [hput, List.map_append, List.map_append, List.map_cons, List.map_cons, hf]

theorem mem_put {registry : Registry} {router other : Router} (h : other ∈ registry.put router) :
    other = router ∨ other ∈ registry := by
  induction registry with
  | nil => exact .inl (by simpa [put] using h)
  | cons r rest ih =>
    rw [put] at h
    split at h
    · rcases List.mem_cons.mp h with h | h
      · exact .inl h
      · exact .inr (List.mem_cons_of_mem r h)
    · rcases List.mem_cons.mp h with h | h
      · exact .inr (by simp [h])
      · exact (ih h).imp_right (List.mem_cons_of_mem r)

/-! ## Adding a route -/

/-- The router that a route of a resource is added to. -/
def routerFor (registry : Registry) (resource : String) : Router :=
  (registry.find? resource).getD (registry.newRouter resource)

theorem routerFor_name (registry : Registry) (resource : String) :
    (registry.routerFor resource).name = resource := by
  unfold routerFor
  cases h : registry.find? resource with
  | none => rfl
  | some router => exact name_of_find? h

theorem outcome_add (registry : Registry) (route : Route) (call : Option Call) :
    (registry.add route call).outcome =
      let router := registry.routerFor route.resource
      let procedure := router.procedureFor route call
      .ok (registry.put (router.withProcedure procedure), router.withProcedure procedure,
        procedure) := by
  unfold add
  rw [Report.outcome_bind_of_ok (Router.outcome_add _ _ _)]
  rfl

/-- The unbounded search for a free namespace ends where the bounded one does. -/
theorem newRouter_isFirstFree (registry : Registry) (resource : String) :
    IsFirstFree (· ∈ registry.map Router.nspace)
      (Naming.numbered (Naming.namespaceOf resource) "_") (registry.newRouter resource).nspace :=
  Naming.firstFree_isFirstFree (Naming.numbered_injective _ _) _

theorem newRouter_nspace_isUsable (registry : Registry) (resource : String) :
    IsUsable Naming.clientReserved (registry.newRouter resource).nspace := by
  obtain ⟨count, hname, _⟩ := newRouter_isFirstFree registry resource
  rw [hname]
  have hseparator : ∀ c ∈ "_".toList, Text.isIdentifierContinue c = true :=
    List.all_eq_true.mp (by decide)
  exact (Naming.namespaceOf_isUsable resource).numbered (by decide) hseparator count

theorem isSnakeChar_of_mem_newRouter_nspace (registry : Registry) (resource : String) :
    ∀ c ∈ (registry.newRouter resource).nspace.toList, Naming.IsSnakeChar c := by
  obtain ⟨count, hname, _⟩ := newRouter_isFirstFree registry resource
  rw [hname]
  exact Naming.isSnakeChar_of_mem_numbered
    (fun _ hc ↦ Naming.isSnakeChar_of_mem_identifier hc) count

theorem newRouter_isConsistent (registry : Registry) (resource : String) :
    (registry.newRouter resource).IsConsistent where
  resource_eq := by simp [newRouter]
  names_nodup := by simp [newRouter]
  functions_nodup := by simp [newRouter]
  function_eq := by simp [newRouter]
  function_isUsable := by simp [newRouter]
  call_eq := by simp [newRouter]

theorem IsConsistent.routerFor {registry : Registry} (h : registry.IsConsistent)
    (resource : String) : (registry.routerFor resource).IsConsistent := by
  unfold Registry.routerFor
  cases hfound : registry.find? resource with
  | none => exact newRouter_isConsistent registry resource
  | some router => exact h.router_isConsistent router (mem_of_find? hfound)

theorem isConsistent_nil : Registry.IsConsistent [] where
  names_nodup := by simp
  router_isConsistent := by simp
  nspaces_nodup := by simp
  nspace_isUsable := by simp

theorem IsConsistent.put_of_find? {registry : Registry} (h : registry.IsConsistent)
    {router old : Router} (hrouter : router.IsConsistent)
    (hfound : registry.find? router.name = some old) (hnspace : router.nspace = old.nspace) :
    (registry.put router).IsConsistent where
  names_nodup := by
    rw [map_put_of_find? hfound Router.name (name_of_find? hfound).symm]
    exact h.names_nodup
  router_isConsistent other hother := by
    rcases mem_put hother with rfl | hother
    · exact hrouter
    · exact h.router_isConsistent other hother
  nspaces_nodup := by
    rw [map_put_of_find? hfound Router.nspace hnspace]
    exact h.nspaces_nodup
  nspace_isUsable other hother := by
    rcases mem_put hother with rfl | hother
    · exact hnspace ▸ h.nspace_isUsable old (mem_of_find? hfound)
    · exact h.nspace_isUsable other hother

theorem IsConsistent.put_of_find?_eq_none {registry : Registry} (h : registry.IsConsistent)
    {router : Router} (hrouter : router.IsConsistent) (hnew : registry.find? router.name = none)
    (hfresh : router.nspace ∉ registry.map Router.nspace)
    (husable : IsUsable Naming.clientReserved router.nspace) :
    (registry.put router).IsConsistent where
  names_nodup := by
    rw [Registry.put_of_find?_eq_none hnew, List.map_append, List.map_singleton,
      ← List.concat_eq_append]
    exact h.names_nodup.concat (not_mem_names_of_find?_eq_none hnew)
  router_isConsistent other hother := by
    rcases mem_put hother with rfl | hother
    · exact hrouter
    · exact h.router_isConsistent other hother
  nspaces_nodup := by
    rw [Registry.put_of_find?_eq_none hnew, List.map_append, List.map_singleton,
      ← List.concat_eq_append]
    exact h.nspaces_nodup.concat hfresh
  nspace_isUsable other hother := by
    rcases mem_put hother with rfl | hother
    · exact husable
    · exact h.nspace_isUsable other hother

/-- One step keeps the registry consistent. -/
theorem IsConsistent.put {registry : Registry} (h : registry.IsConsistent) (route : Route)
    (call : Option Call) :
    let router := registry.routerFor route.resource
    (registry.put (router.withProcedure (router.procedureFor route call))).IsConsistent := by
  intro router
  have hname : router.name = route.resource := registry.routerFor_name route.resource
  have hadded := (h.routerFor route.resource).withProcedureFor hname.symm call
  cases hfound : registry.find? route.resource with
  | some old =>
    have hnspace : router.nspace = old.nspace := by simp [router, Registry.routerFor, hfound]
    exact h.put_of_find? hadded (hname ▸ hfound) hnspace
  | none =>
    have hnspace : router.nspace = (registry.newRouter route.resource).nspace := by
      simp [router, Registry.routerFor, hfound]
    refine h.put_of_find?_eq_none hadded (hname ▸ hfound) ?_ ?_
    · exact hnspace ▸ (registry.newRouter_isFirstFree route.resource).not_taken
    · exact hnspace ▸ registry.newRouter_nspace_isUsable route.resource

/-! ## Runs -/

/-- Adds routes in order, each with the call that may be bound to it. -/
def addAll (registry : Registry) : List (Route × Option Call) → Report Registry
  | [] => pure registry
  | (route, call) :: rest => do
    let (registry, _) ← registry.add route call
    addAll registry rest

theorem IsConsistent.addAll {registry : Registry} (h : registry.IsConsistent)
    (steps : List (Route × Option Call)) :
    ∃ final, (registry.addAll steps).outcome = .ok final ∧ final.IsConsistent := by
  induction steps generalizing registry with
  | nil => exact ⟨registry, rfl, h⟩
  | cons step rest ih =>
    obtain ⟨route, call⟩ := step
    obtain ⟨final, hfinal, hconsistent⟩ := ih (h.put route call)
    refine ⟨final, ?_, hconsistent⟩
    rw [Registry.addAll, Report.outcome_bind_of_ok (outcome_add registry route call)]
    exact hfinal

/-- What every new router has and every added procedure keeps holds of all routers after a run. -/
theorem forall_router_of_addAll {P : Router → Prop} {steps : List (Route × Option Call)}
    (hnew : ∀ (registry : Registry) resource, P (registry.newRouter resource))
    (hadd : ∀ router, P router → ∀ step ∈ steps,
      P (router.withProcedure (router.procedureFor step.1 step.2)))
    {registry final : Registry} (hregistry : ∀ router ∈ registry, P router)
    (hfinal : (registry.addAll steps).outcome = .ok final) : ∀ router ∈ final, P router := by
  induction steps generalizing registry with
  | nil =>
    cases hfinal
    exact hregistry
  | cons step rest ih =>
    obtain ⟨route, call⟩ := step
    rw [addAll, Report.outcome_bind_of_ok (outcome_add registry route call)] at hfinal
    refine ih (fun router h next hnext ↦ hadd router h next (List.mem_cons_of_mem _ hnext)) ?_
      hfinal
    intro router hrouter
    rcases mem_put hrouter with rfl | hrouter
    · refine hadd _ ?_ (route, call) (by simp)
      unfold routerFor
      cases hfound : registry.find? route.resource with
      | none => exact hnew registry route.resource
      | some old => exact hregistry old (mem_of_find? hfound)
    · exact hregistry router hrouter

/-- The unbounded searches that adding a route goes through, each with the candidate it stops at:
those for a free name, for the namespace of a new router, and for the identifiers of both. -/
structure SearchesEnd (registry : Registry) (route : Route) : Prop where
  name : IsFirstFree ((registry.routerFor route.resource).isTaken · = true)
    (Naming.numbered ((registry.routerFor route.resource).baseName route) "")
    ((registry.routerFor route.resource).freeName route)
  nspace : IsFirstFree (· ∈ registry.map Router.nspace)
    (Naming.numbered (Naming.namespaceOf route.resource) "_")
    (registry.newRouter route.resource).nspace
  identifier : ∀ text reserved, IsFirstFree (· ∈ Naming.keywords ++ reserved)
    (Naming.underscored (String.ofList (Naming.identifierStem text.toList)))
    (Naming.identifier text reserved)

theorem IsConsistent.searchesEnd {registry : Registry} (h : registry.IsConsistent) (route : Route) :
    registry.SearchesEnd route where
  name := (h.routerFor route.resource).freeName_isFirstFree route
  nspace := registry.newRouter_isFirstFree route.resource
  identifier := Naming.identifier_isFirstFree

/-- Any routes, with or without calls and in any order, give a consistent registry in which every
router stands under its resource, and the searches for the names of a further route end. -/
theorem exists_consistent_addAll (steps : List (Route × Option Call)) :
    ∃ registry, (addAll [] steps).outcome = .ok registry ∧ registry.IsConsistent ∧
      (∀ router ∈ registry, registry.find? router.name = some router) ∧
      ∀ route, registry.SearchesEnd route := by
  obtain ⟨registry, hregistry, hconsistent⟩ := isConsistent_nil.addAll steps
  exact ⟨registry, hregistry, hconsistent,
    fun _ hrouter ↦ find?_name_of_mem hconsistent.names_nodup hrouter, hconsistent.searchesEnd⟩

end Registry

end ApiCompiler

namespace ApiCompiler.Router

/-! ## Inputs of the procedures of a router -/

variable {router : Router}

/-- The last procedure whose input has a name. -/
def owner? (router : Router) (inputModel : String) : Option Procedure :=
  (router.procedures.filter fun p ↦ p.inputModel == inputModel).getLast?

/-- A router that has the input of the last procedure under every name of an input. -/
structure HasInputs (router : Router) : Prop where
  inputModel_eq : ∀ p ∈ router.procedures, p.inputModel = inputModelOf p.route.name
  find?_schemas : ∀ name,
    router.schemas.find? name = (router.owner? name).map fun p ↦ p.route.inputSchema

/-- A router in which every procedure keeps an input of its own. -/
structure KeepsInputs (router : Router) : Prop where
  find?_schemas : ∀ p ∈ router.procedures,
    router.schemas.find? p.inputModel = some p.route.inputSchema
  inputModels_nodup : (router.procedures.map Procedure.inputModel).Nodup

theorem hasInputs_of_nil {name nspace : String} : HasInputs ⟨name, nspace, [], []⟩ where
  inputModel_eq := by simp
  find?_schemas _ := rfl

/-- Adding a procedure writes its input under the name of the input and nothing else. -/
theorem HasInputs.withProcedureFor (h : router.HasInputs) (route : Route) (call : Option Call) :
    (router.withProcedure (router.procedureFor route call)).HasInputs where
  inputModel_eq p hp := by
    rcases List.mem_append.mp hp with hp | hp
    · exact h.inputModel_eq p hp
    · rw [List.mem_singleton.mp hp]
      rfl
  find?_schemas name := by
    rw [withProcedure, Named.find?_put, owner?, List.filter_append, List.filter_singleton]
    by_cases hname : name = (router.procedureFor route call).inputModel
    · have hbeq : ((router.procedureFor route call).inputModel == name) = true := by simp [hname]
      rw [if_pos hname, hbeq, cond_true, List.getLast?_concat, Option.map_some]
    · have hbeq : ((router.procedureFor route call).inputModel == name) = false := by
        simpa using Ne.symm hname
      rw [if_neg hname, hbeq, cond_false, List.append_nil, h.find?_schemas, owner?]

/-! ## The last procedure of a name -/

theorem mem_of_owner? {inputModel : String} {p : Procedure}
    (h : router.owner? inputModel = some p) :
    p ∈ router.procedures ∧ p.inputModel = inputModel := by
  have hmem := List.mem_of_getLast? h
  rw [List.mem_filter] at hmem
  exact ⟨hmem.1, by simpa using hmem.2⟩

theorem exists_owner? {p : Procedure} (hp : p ∈ router.procedures) :
    ∃ q, router.owner? p.inputModel = some q := by
  have hne : router.procedures.filter (fun q ↦ q.inputModel == p.inputModel) ≠ [] :=
    List.ne_nil_of_mem (List.mem_filter.mpr ⟨hp, by simp⟩)
  exact ⟨_, List.getLast?_eq_some_getLast hne⟩

theorem owner?_of_nodup (h : (router.procedures.map Procedure.inputModel).Nodup) {p : Procedure}
    (hp : p ∈ router.procedures) : router.owner? p.inputModel = some p := by
  obtain ⟨q, hq⟩ := exists_owner? hp
  obtain ⟨hmem, hname⟩ := mem_of_owner? hq
  rw [hq, List.inj_on_of_nodup_map h hmem hp hname]

theorem HasInputs.exists_find?_schemas (h : router.HasInputs) {p : Procedure}
    (hp : p ∈ router.procedures) :
    ∃ q ∈ router.procedures, q.inputModel = p.inputModel ∧
      router.schemas.find? p.inputModel = some q.route.inputSchema := by
  obtain ⟨q, hq⟩ := exists_owner? hp
  obtain ⟨hmem, hname⟩ := mem_of_owner? hq
  exact ⟨q, hmem, hname, by rw [h.find?_schemas, hq, Option.map_some]⟩

/-! ## When every procedure keeps its input -/

theorem inputModelOf_inj {name other : String} :
    inputModelOf name = inputModelOf other ↔ Naming.pascal name = Naming.pascal other := by
  rw [inputModelOf, inputModelOf]
  refine ⟨fun h ↦ ?_, fun h ↦ by rw [h]⟩
  have hchars := congrArg String.toList h
  rw [String.toList_append, String.toList_append] at hchars
  exact String.toList_injective (List.append_cancel_right hchars)

/-- Every procedure keeps its input exactly when the Pascal spellings of the names are distinct. -/
theorem HasInputs.keepsInputs_iff (h : router.HasInputs) :
    router.KeepsInputs ↔ (router.procedures.map fun p ↦ Naming.pascal p.route.name).Nodup := by
  have hnodup : (router.procedures.map Procedure.inputModel).Nodup ↔
      (router.procedures.map fun p ↦ Naming.pascal p.route.name).Nodup := by
    unfold List.Nodup
    rw [List.pairwise_map, List.pairwise_map]
    refine List.Pairwise.iff_of_mem fun {p q} hp hq ↦ ?_
    rw [h.inputModel_eq p hp, h.inputModel_eq q hq, ne_eq, inputModelOf_inj]
  constructor
  · exact fun hkeeps ↦ hnodup.mp hkeeps.inputModels_nodup
  · intro hspellings
    have hmodels := hnodup.mpr hspellings
    refine ⟨fun p hp ↦ ?_, hmodels⟩
    rw [h.find?_schemas, owner?_of_nodup hmodels hp, Option.map_some]

end ApiCompiler.Router

namespace ApiCompiler.Registry

/-- Every router of a run has the inputs of the last procedures. -/
theorem hasInputs_of_addAll {steps : List (Route × Option Call)} {final : Registry}
    (h : (addAll [] steps).outcome = .ok final) : ∀ router ∈ final, router.HasInputs :=
  forall_router_of_addAll (fun _ _ ↦ Router.hasInputs_of_nil)
    (fun _ hrouter step _ ↦ hrouter.withProcedureFor step.1 step.2) (by simp) h

end ApiCompiler.Registry
