import ApiCompiler.Proofs.Document.Operation
import ApiCompiler.Proofs.Registry.Consistency

/-!
# Procedures in the order of their operations

A registry lists operations when it has the operations of each resource, in order, in the router of
the resource, and its routers in the order of the first operation of each resource. The empty
registry lists no operations, and adding the route of an operation to a registry puts this operation
behind the others: names may change on the way, places do not.
-/

namespace ApiCompiler

open Document (Operation operationsOf operationsOf_concat)

/-- The method and the path that a procedure stands for. -/
def Procedure.place (p : Procedure) : String × Value :=
  (p.route.method, .text p.route.path)

namespace Registry

variable {registry : Registry} {router : Router}

/-! ## Looking up after a step -/

theorem find?_put (registry : Registry) (router : Router) (resource : String) :
    (registry.put router).find? resource =
      if resource = router.name then some router else registry.find? resource := by
  induction registry with
  | nil => rw [put, find?_cons]
  | cons r rest ih =>
    rw [put_cons, find?_cons r rest]
    by_cases hname : router.name = r.name
    · rw [if_pos hname, find?_cons, hname]
      by_cases hresource : resource = r.name <;> simp [hresource]
    · rw [if_neg hname, find?_cons, ih]
      by_cases hresource : resource = r.name
      · rw [if_pos hresource, if_neg fun h ↦ hname (h.symm.trans hresource), if_pos hresource]
      · rw [if_neg hresource, if_neg hresource]

/-- The procedures of a resource. -/
def proceduresOf (registry : Registry) (resource : String) : List Procedure :=
  ((registry.find? resource).map Router.procedures).getD []

theorem proceduresOf_name_of_mem (h : (registry.map Router.name).Nodup)
    (hrouter : router ∈ registry) :
    registry.proceduresOf router.name = router.procedures := by
  rw [proceduresOf, find?_name_of_mem h hrouter]
  rfl

theorem procedures_routerFor (registry : Registry) (resource : String) :
    (registry.routerFor resource).procedures = registry.proceduresOf resource := by
  rw [routerFor, proceduresOf]
  cases registry.find? resource <;> rfl

/-- The registry after a route has been added. -/
def withRoute (registry : Registry) (route : Route) (call : Option Call) : Registry :=
  let router := registry.routerFor route.resource
  registry.put (router.withProcedure (router.procedureFor route call))

theorem name_withProcedure (router : Router) (p : Procedure) :
    (router.withProcedure p).name = router.name :=
  rfl

theorem proceduresOf_withRoute (registry : Registry) (route : Route) (call : Option Call)
    (resource : String) :
    (registry.withRoute route call).proceduresOf resource =
      if resource = route.resource then
        registry.proceduresOf resource ++
          [(registry.routerFor route.resource).procedureFor route call]
      else registry.proceduresOf resource := by
  rw [withRoute, proceduresOf, find?_put, name_withProcedure, routerFor_name]
  by_cases hresource : resource = route.resource
  · rw [if_pos hresource, if_pos hresource, Option.map_some, Option.getD_some,
      Router.withProcedure, procedures_routerFor, hresource]
  · rw [if_neg hresource, if_neg hresource, proceduresOf]

/-- A resource keeps its place; a new one comes last. -/
theorem names_withRoute (registry : Registry) (route : Route) (call : Option Call) :
    (registry.withRoute route call).map Router.name =
      if route.resource ∈ registry.map Router.name then registry.map Router.name
      else registry.map Router.name ++ [route.resource] := by
  have hname := registry.routerFor_name route.resource
  cases hfound : registry.find? route.resource with
  | some old =>
    have hmem : route.resource ∈ registry.map Router.name :=
      List.mem_map.mpr ⟨old, mem_of_find? hfound, name_of_find? hfound⟩
    have hold : registry.find? ((registry.routerFor route.resource).withProcedure
        ((registry.routerFor route.resource).procedureFor route call)).name = some old := by
      rw [name_withProcedure, hname, hfound]
    rw [if_pos hmem, withRoute]
    exact map_put_of_find? hold Router.name (name_of_find? hold).symm
  | none =>
    rw [if_neg (not_mem_names_of_find?_eq_none hfound), withRoute, put_of_find?_eq_none,
      List.map_append, List.map_singleton, name_withProcedure, hname]
    rw [name_withProcedure, hname, hfound]

theorem routeCount_put_of_find? {old : Router} (h : registry.find? router.name = some old) :
    (registry.put router).routeCount + old.procedures.length =
      registry.routeCount + router.procedures.length := by
  obtain ⟨before, after, rfl, hput⟩ := exists_append_of_find? h
  rw [hput]
  simp only [routeCount, List.flatMap_append, List.flatMap_cons, List.length_append]
  omega

/-- One more route is one route more. -/
theorem routeCount_withRoute (registry : Registry) (route : Route) (call : Option Call) :
    (registry.withRoute route call).routeCount = registry.routeCount + 1 := by
  have hname := registry.routerFor_name route.resource
  cases hfound : registry.find? route.resource with
  | some old =>
    have hrouter : registry.routerFor route.resource = old := by rw [routerFor, hfound]; rfl
    have hold : registry.find? (old.withProcedure (old.procedureFor route call)).name =
        some old := by
      rw [name_withProcedure, name_of_find? hfound, hfound]
    have hcount := routeCount_put_of_find? hold
    rw [Router.withProcedure, List.length_append, List.length_singleton] at hcount
    rw [withRoute, hrouter, Router.withProcedure]
    omega
  | none =>
    rw [withRoute, put_of_find?_eq_none (by rw [name_withProcedure, hname, hfound]), routeCount,
      routeCount, List.flatMap_append, List.flatMap_singleton, List.length_append,
      Router.withProcedure, List.length_append, procedures_routerFor, proceduresOf, hfound]
    rfl

/-! ## Listed operations -/

theorem eraseDups_concat (names : List String) (name : String) :
    (names ++ [name]).eraseDups =
      if name ∈ names then names.eraseDups else names.eraseDups ++ [name] := by
  rw [List.eraseDups_append, List.removeAll, List.filter_singleton]
  by_cases h : name ∈ names <;> simp [h, List.eraseDups_cons]

/-- A registry with the operations of each resource in order, the resources in the order of their
first operation, and as many routes as there are operations with a resource. -/
structure Lists (registry : Registry) (operations : List Operation) : Prop where
  names_eq : registry.map Router.name = (operations.filterMap Operation.resource?).eraseDups
  places_eq : ∀ resource, (registry.proceduresOf resource).map Procedure.place =
    (operationsOf operations resource).map Operation.place
  routeCount_eq : registry.routeCount = (operations.filterMap Operation.resource?).length

theorem lists_nil : Lists [] [] where
  names_eq := rfl
  places_eq _ := rfl
  routeCount_eq := rfl

variable {operations : List Operation} {operation : Operation}

theorem Lists.skip (h : registry.Lists operations) (hnone : operation.resource? = none) :
    registry.Lists (operations ++ [operation]) where
  names_eq := by
    rw [List.filterMap_append, List.filterMap_cons_none hnone, List.filterMap_nil, List.append_nil]
    exact h.names_eq
  places_eq resource := by
    rw [operationsOf_concat, h.places_eq, hnone, if_neg (by simp), List.append_nil]
  routeCount_eq := by
    rw [List.filterMap_append, List.filterMap_cons_none hnone, List.filterMap_nil, List.append_nil]
    exact h.routeCount_eq

/-- Adding the route of an operation lists the operation behind the others. -/
theorem Lists.withRoute (h : registry.Lists operations) {route : Route} (call : Option Call)
    (hresource : operation.resource? = some route.resource)
    (hplace : operation.place = (route.method, .text route.path)) :
    (registry.withRoute route call).Lists (operations ++ [operation]) where
  names_eq := by
    rw [names_withRoute, h.names_eq, List.filterMap_append, List.filterMap_cons_some hresource,
      List.filterMap_nil, eraseDups_concat]
    simp only [List.mem_eraseDups]
  places_eq resource := by
    rw [proceduresOf_withRoute, operationsOf_concat, List.map_append, ← h.places_eq, hresource]
    by_cases heq : resource = route.resource
    · rw [if_pos heq, if_pos (by rw [heq]), List.map_append, List.map_singleton,
        List.map_singleton, hplace]
      rfl
    · rw [if_neg heq, if_neg (by simpa using Ne.symm heq), List.map_nil, List.append_nil]
  routeCount_eq := by
    rw [routeCount_withRoute, h.routeCount_eq, List.filterMap_append,
      List.filterMap_cons_some hresource, List.filterMap_nil, List.length_append]
    rfl

/-- Exactly the operations with a resource are in the registry. -/
theorem Lists.exists_router_iff (h : registry.Lists operations)
    (hnodup : (registry.map Router.name).Nodup) (hoperation : operation ∈ operations) :
    (∃ router ∈ registry, operation.place ∈ router.procedures.map Procedure.place) ↔
      ∃ resource, operation.resource? = some resource := by
  constructor
  · rintro ⟨router, hrouter, hplace⟩
    rw [← proceduresOf_name_of_mem hnodup hrouter, h.places_eq, List.mem_map] at hplace
    obtain ⟨other, hother, hplace⟩ := hplace
    have hresource := (List.mem_filter.mp hother).2
    rw [Operation.place, Operation.place, Prod.mk.injEq] at hplace
    refine ⟨router.name, ?_⟩
    rw [Operation.resource?, ← hplace.2]
    simpa [Operation.resource?] using hresource
  · rintro ⟨resource, hresource⟩
    have hmem : resource ∈ registry.map Router.name := by
      rw [h.names_eq, List.mem_eraseDups]
      exact List.mem_filterMap.mpr ⟨operation, hoperation, hresource⟩
    obtain ⟨router, hrouter, rfl⟩ := List.mem_map.mp hmem
    refine ⟨router, hrouter, ?_⟩
    rw [← proceduresOf_name_of_mem hnodup hrouter, h.places_eq]
    exact List.mem_map_of_mem (List.mem_filter.mpr ⟨hoperation, by simp [hresource]⟩)

/-- A procedure stands for an operation of the resource of its router. -/
theorem Lists.exists_operation_of_mem (h : registry.Lists operations)
    (hnodup : (registry.map Router.name).Nodup) (hrouter : router ∈ registry) {p : Procedure}
    (hp : p ∈ router.procedures) :
    ∃ operation ∈ operations, operation.place = p.place ∧
      operation.resource? = some router.name := by
  have hplaces := h.places_eq router.name
  rw [proceduresOf_name_of_mem hnodup hrouter] at hplaces
  have hplace : p.place ∈ (operationsOf operations router.name).map Operation.place :=
    hplaces ▸ List.mem_map_of_mem hp
  obtain ⟨operation, hoperation, hplace⟩ := List.mem_map.mp hplace
  obtain ⟨hmem, hresource⟩ := List.mem_filter.mp hoperation
  exact ⟨operation, hmem, hplace, by simpa using hresource⟩

/-- The routers of listed operations are not empty, and their procedures have paths of their
resource. -/
theorem Lists.procedures_of_mem (h : registry.Lists operations)
    (hnodup : (registry.map Router.name).Nodup) (hrouter : router ∈ registry) :
    router.procedures ≠ [] ∧
      ∀ p ∈ router.procedures, PathTemplate.resource? p.route.path = some router.name := by
  have hplaces := h.places_eq router.name
  rw [proceduresOf_name_of_mem hnodup hrouter] at hplaces
  have hname : router.name ∈ registry.map Router.name := List.mem_map_of_mem hrouter
  rw [h.names_eq, List.mem_eraseDups] at hname
  obtain ⟨operation, hoperation, hresource⟩ := List.mem_filterMap.mp hname
  constructor
  · intro hnil
    rw [hnil, List.map_nil] at hplaces
    have hmem : operation ∈ operationsOf operations router.name :=
      List.mem_filter.mpr ⟨hoperation, by simp [hresource]⟩
    rw [List.map_eq_nil_iff.mp hplaces.symm] at hmem
    simp at hmem
  · intro p hp
    obtain ⟨other, -, hplace, hresource⟩ := h.exists_operation_of_mem hnodup hrouter hp
    rw [Operation.place, Procedure.place, Prod.mk.injEq] at hplace
    rw [← Operation.resource?_of_path_eq hplace.2, hresource]

end Registry

end ApiCompiler
