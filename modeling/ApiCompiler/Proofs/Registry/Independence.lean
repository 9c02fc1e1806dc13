import ApiCompiler.Proofs.Registry.Order

/-!
# Routers by themselves

What a router holds is decided by the routes of its resource alone. The only thing that it has from
the other routers is its namespace, which the registry keeps apart from theirs and which its calls
repeat; the search for a name never looks at it. So a run gives each resource the router that the
routes of this resource give when they are added alone, up to the namespace. What stands in a
registry stays as it is, whatever is added later.
-/

namespace ApiCompiler

/-! ## Another namespace -/

/-- A procedure whose call goes through another attribute of the client. -/
def Procedure.moved (nspace : String) (p : Procedure) : Procedure :=
  { p with call := p.call.map fun c ↦ { c with resourceNamespace := nspace } }

namespace Router

/-- A router under another namespace, which its calls go through as well. -/
def moved (nspace : String) (router : Router) : Router :=
  { router with nspace, procedures := router.procedures.map (Procedure.moved nspace) }

variable {router : Router}

/-- A consistent router stands under its namespace already. -/
theorem IsConsistent.moved_nspace (h : router.IsConsistent) :
    router.moved router.nspace = router := by
  have hprocedure : ∀ p ∈ router.procedures, p.moved router.nspace = p := by
    intro p hp
    have hcall : (p.call.map fun c ↦ { c with resourceNamespace := router.nspace }) = p.call := by
      cases hbound : p.call with
      | none => rfl
      | some call =>
        obtain ⟨hnspace, -⟩ := h.call_eq p hp call hbound
        rw [Option.map_some, ← hnspace]
    rw [Procedure.moved, hcall]
  rw [moved, List.map_congr_left hprocedure, List.map_id']

theorem isTaken_moved (nspace name : String) :
    (router.moved nspace).isTaken name = router.isTaken name := by
  rw [isTaken, moved, List.any_map]
  rfl

theorem freeName_moved (nspace : String) (route : Route) :
    (router.moved nspace).freeName route = router.freeName route := by
  have hbase : (router.moved nspace).baseName route = router.baseName route := by
    rw [baseName, isTaken_moved, baseName]
  have hlength : (router.moved nspace).procedures.length = router.procedures.length := by
    rw [moved, List.length_map]
  simp only [freeName, hbase, isTaken_moved, hlength]

/-- Under another namespace a route becomes the same procedure, but for that namespace. -/
theorem procedureFor_moved (nspace : String) (route : Route) (call : Option Call) :
    (router.moved nspace).procedureFor route call =
      (router.procedureFor route call).moved nspace := by
  simp only [procedureFor, freeName_moved, Procedure.moved, Option.map_map, Function.comp_def]
  rfl

theorem withProcedure_moved (nspace : String) (p : Procedure) :
    (router.moved nspace).withProcedure (p.moved nspace) =
      (router.withProcedure p).moved nspace := by
  simp [withProcedure, moved, Procedure.moved]

/-- Routers that differ in the namespace only still do so after a route has been added to both. -/
theorem moved_withProcedureFor {other : Router} {nspace : String}
    (h : router.moved nspace = other.moved nspace) (route : Route) (call : Option Call) :
    (router.withProcedure (router.procedureFor route call)).moved nspace =
      (other.withProcedure (other.procedureFor route call)).moved nspace := by
  rw [← withProcedure_moved, ← procedureFor_moved, h, procedureFor_moved, withProcedure_moved]

end Router

namespace Registry

variable {registry other : Registry}

/-! ## Runs -/

/-- The registry after routes have been added in order. -/
def withRoutes (registry : Registry) (steps : List (Route × Option Call)) : Registry :=
  steps.foldl (fun registry step ↦ registry.withRoute step.1 step.2) registry

theorem outcome_addAll (registry : Registry) (steps : List (Route × Option Call)) :
    (registry.addAll steps).outcome = .ok (registry.withRoutes steps) := by
  induction steps generalizing registry with
  | nil => rfl
  | cons step rest ih =>
    obtain ⟨route, call⟩ := step
    rw [addAll, Report.outcome_bind_of_ok (outcome_add registry route call)]
    exact ih _

theorem find?_withRoute (registry : Registry) (route : Route) (call : Option Call)
    (resource : String) :
    (registry.withRoute route call).find? resource =
      if resource = route.resource then
        some ((registry.routerFor route.resource).withProcedure
          ((registry.routerFor route.resource).procedureFor route call))
      else registry.find? resource := by
  rw [withRoute, find?_put, name_withProcedure, routerFor_name]

/-! ## The routes of one resource -/

/-- The steps of a run that concern one resource. -/
def stepsOf (steps : List (Route × Option Call)) (resource : String) :
    List (Route × Option Call) :=
  steps.filter fun step ↦ step.1.resource == resource

/-- Registries that have the same router for a resource, but for its namespace. -/
def AgreeOn (resource : String) (registry other : Registry) : Prop :=
  ∀ nspace, (registry.find? resource).map (Router.moved nspace) =
    (other.find? resource).map (Router.moved nspace)

theorem AgreeOn.routerFor {resource : String} (h : AgreeOn resource registry other)
    (nspace : String) :
    (registry.routerFor resource).moved nspace = (other.routerFor resource).moved nspace := by
  have hrouter := h nspace
  unfold Registry.routerFor
  cases hfound : registry.find? resource with
  | none =>
    rw [hfound, Option.map_none, eq_comm, Option.map_eq_none_iff] at hrouter
    rw [hrouter]
    rfl
  | some router =>
    rw [hfound, Option.map_some, eq_comm, Option.map_eq_some_iff] at hrouter
    obtain ⟨twin, htwin, heq⟩ := hrouter
    rw [htwin]
    exact heq.symm

/-- A route of the resource keeps the agreement when it is added on both sides. -/
theorem AgreeOn.withRoute {route : Route} (h : AgreeOn route.resource registry other)
    (call : Option Call) :
    AgreeOn route.resource (registry.withRoute route call) (other.withRoute route call) := by
  intro nspace
  rw [find?_withRoute, find?_withRoute, if_pos rfl, if_pos rfl, Option.map_some, Option.map_some]
  exact congrArg some (Router.moved_withProcedureFor (h.routerFor nspace) route call)

/-- A route of another resource keeps the agreement when it is added on one side only. -/
theorem AgreeOn.withRoute_left {resource : String} (h : AgreeOn resource registry other)
    {route : Route} (hne : resource ≠ route.resource) (call : Option Call) :
    AgreeOn resource (registry.withRoute route call) other := by
  intro nspace
  rw [find?_withRoute, if_neg hne]
  exact h nspace

/-- All routes on one side and those of the resource on the other keep the agreement. -/
theorem AgreeOn.withRoutes {resource : String} (h : AgreeOn resource registry other)
    (steps : List (Route × Option Call)) :
    AgreeOn resource (registry.withRoutes steps) (other.withRoutes (stepsOf steps resource)) := by
  induction steps generalizing registry other with
  | nil => exact h
  | cons step rest ih =>
    obtain ⟨route, call⟩ := step
    rw [stepsOf, List.filter_cons]
    by_cases hresource : route.resource = resource
    · subst hresource
      rw [if_pos (beq_self_eq_true _)]
      exact ih (h.withRoute call)
    · rw [if_neg (by simpa using hresource)]
      exact ih (h.withRoute_left (Ne.symm hresource) call)

/-! ## What stays -/

/-- A registry that has grown out of another one: each router stands at its place under its name and
its namespace, with all its procedures in front of those that have been added. -/
def Continues (registry later : Registry) : Prop :=
  ∀ (i : Nat) (router : Router), registry[i]? = some router →
    ∃ grown, later[i]? = some grown ∧ grown.name = router.name ∧ grown.nspace = router.nspace ∧
      router.procedures <+: grown.procedures

theorem continues_refl (registry : Registry) : registry.Continues registry :=
  fun _ router h ↦ ⟨router, h, rfl, rfl, List.prefix_refl _⟩

theorem Continues.trans {middle later : Registry} (h : registry.Continues middle)
    (h' : middle.Continues later) : registry.Continues later := by
  intro i router hrouter
  obtain ⟨grown, hgrown, hname, hnspace, hprefix⟩ := h i router hrouter
  obtain ⟨last, hlast, hname', hnspace', hprefix'⟩ := h' i grown hgrown
  exact ⟨last, hlast, hname'.trans hname, hnspace'.trans hnspace, hprefix.trans hprefix'⟩

/-- Putting a router that has grown out of the one of its name, if there is one, touches no other
router. -/
theorem continues_put {router : Router}
    (h : ∀ old, registry.find? router.name = some old →
      router.nspace = old.nspace ∧ old.procedures <+: router.procedures) :
    registry.Continues (registry.put router) := by
  induction registry with
  | nil =>
    intro i old hold
    simp at hold
  | cons first rest ih =>
    rw [find?_cons] at h
    rw [put_cons]
    by_cases hname : router.name = first.name
    · rw [if_pos hname] at h ⊢
      obtain ⟨hnspace, hprefix⟩ := h first rfl
      intro i old hold
      cases i with
      | zero =>
        obtain rfl : first = old := by simpa using hold
        exact ⟨router, rfl, hname, hnspace, hprefix⟩
      | succ i => exact ⟨old, hold, rfl, rfl, List.prefix_refl _⟩
    · rw [if_neg hname] at h ⊢
      intro i old hold
      cases i with
      | zero => exact ⟨old, hold, rfl, rfl, List.prefix_refl _⟩
      | succ i => exact ih h i old hold

theorem continues_withRoute (registry : Registry) (route : Route) (call : Option Call) :
    registry.Continues (registry.withRoute route call) := by
  refine continues_put fun old hold ↦ ?_
  rw [name_withProcedure, routerFor_name] at hold
  have hrouter : registry.routerFor route.resource = old := by
    rw [routerFor, hold, Option.getD_some]
  rw [hrouter]
  exact ⟨rfl, List.prefix_append _ _⟩

theorem continues_withRoutes (registry : Registry) (steps : List (Route × Option Call)) :
    registry.Continues (registry.withRoutes steps) := by
  induction steps generalizing registry with
  | nil => exact continues_refl registry
  | cons step rest ih => exact (continues_withRoute registry step.1 step.2).trans (ih _)

/-- A run gives each resource the router that the routes of this resource give by themselves, under
another namespace maybe. Whatever is added after the run, the routers keep their namespaces, and the
procedures that they have stay at their places unchanged. -/
theorem addAll_stepsOf_agree (steps : List (Route × Option Call)) :
    ∃ final, (addAll [] steps).outcome = .ok final ∧
      (∀ resource, ∃ alone, (addAll [] (stepsOf steps resource)).outcome = .ok alone ∧
        ∃ nspace, final.find? resource = (alone.find? resource).map (Router.moved nspace)) ∧
      ∀ more, ∃ later, (final.addAll more).outcome = .ok later ∧ final.Continues later := by
  obtain ⟨final, hfinal, hconsistent⟩ := isConsistent_nil.addAll steps
  have hrun : withRoutes [] steps = final :=
    Except.ok.inj ((outcome_addAll [] steps).symm.trans hfinal)
  refine ⟨final, hfinal, fun resource ↦ ⟨_, outcome_addAll [] _, ?_⟩,
    fun more ↦ ⟨_, outcome_addAll final more, continues_withRoutes final more⟩⟩
  have hagree : AgreeOn resource final (withRoutes [] (stepsOf steps resource)) :=
    hrun ▸ AgreeOn.withRoutes (fun _ ↦ rfl) steps
  cases hfound : final.find? resource with
  | none =>
    have hnone := hagree ""
    rw [hfound, Option.map_none] at hnone
    rw [Option.map_eq_none_iff.mp hnone.symm]
    exact ⟨"", rfl⟩
  | some router =>
    refine ⟨router.nspace, ?_⟩
    rw [← hagree router.nspace, hfound, Option.map_some,
      (hconsistent.router_isConsistent router (mem_of_find? hfound)).moved_nspace]

end Registry

end ApiCompiler
