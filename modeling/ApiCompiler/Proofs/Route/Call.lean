import ApiCompiler.Proofs.Report
import ApiCompiler.Route.Call

/-!
# Complete calls

Whatever a caller states for an operation, a call that is accepted passes every path parameter of
the route and no other one, and it passes the body only if there is one. The default call does so
too.

Two names of operations have an override of their own, whatever the document says about them. It
passes no path parameter, and the one for listings needs a body. So a route under one of these names
is refused when its path has templates or, for a listing, when it has no body; every other route has
a call.
-/

namespace ApiCompiler.Call

variable {route : Route} {arguments : List Argument}

/-- Arguments that pass every path parameter, under keys that are path parameters, and the body only
where the route has one. -/
structure IsComplete (route : Route) (arguments : List Argument) : Prop where
  path_mem : ∀ a ∈ arguments, a.kind = .path → ∃ name ∈ route.pathParams.names, a.key = .text name
  path_passed : ∀ name ∈ route.pathParams.names,
    ∃ a ∈ arguments, a.kind = .path ∧ a.key = .text name
  body_isSome : ∀ a ∈ arguments, a.kind = .body → route.body.isSome = true

theorem eq_text_of_keyIs {name : String} {key : Value} (h : Value.Keyed.keyIs name key = true) :
    key = .text name := by
  cases key <;> simp_all [Value.Keyed.keyIs]

theorem passes_iff {a : Argument} {name : String} :
    a.passes name = true ↔ a.kind = .path ∧ a.key = .text name := by
  rw [Argument.passes, Bool.and_eq_true, beq_iff_eq]
  constructor
  · exact fun h ↦ ⟨h.1, eq_text_of_keyIs h.2⟩
  · rintro ⟨hkind, hkey⟩
    exact ⟨hkind, by simp [hkey, Value.Keyed.keyIs]⟩

/-! ## Stated arguments -/

/-- An accepted argument names a path parameter, or the query, or a body that there is. -/
theorem of_checkArgument {written : Value.Entries} {a : Argument}
    (h : (checkArgument route written).outcome = .ok a) :
    (a.kind = .path → ∃ name ∈ route.pathParams.names, a.key = .text name) ∧
      (a.kind = .body → route.body.isSome = true) := by
  unfold checkArgument at h
  dsimp only at h
  split at h
  · next kind key _ _ =>
    split at h
    · cases h
    · cases kind with
      | path =>
        dsimp only at h
        split at h
        · cases h
        · split at h
          · next hnames =>
            cases h
            obtain ⟨name, hname, hkey⟩ := List.any_eq_true.mp hnames
            exact ⟨fun _ ↦ ⟨name, hname, eq_text_of_keyIs hkey⟩, nofun⟩
          · cases h
      | query =>
        cases h
        exact ⟨nofun, nofun⟩
      | body =>
        dsimp only at h
        split at h
        · cases h
        · next hbody =>
          cases h
          refine ⟨nofun, fun _ ↦ ?_⟩
          simpa [Option.isNone_iff_eq_none, Option.isSome_iff_ne_none] using hbody
  · cases h

theorem forall_of_checkArguments {written : List Value.Entries}
    (h : (checkArguments route written).outcome = .ok arguments) : ∀ a ∈ arguments,
      (a.kind = .path → ∃ name ∈ route.pathParams.names, a.key = .text name) ∧
        (a.kind = .body → route.body.isSome = true) := by
  induction written generalizing arguments with
  | nil =>
    cases h
    simp
  | cons entries rest ih =>
    rw [checkArguments, Report.outcome_bind_eq_ok] at h
    obtain ⟨argument, hargument, h⟩ := h
    rw [Report.outcome_bind_eq_ok] at h
    obtain ⟨others, hothers, h⟩ := h
    cases h
    intro a ha
    rcases List.mem_cons.mp ha with rfl | ha
    · exact of_checkArgument hargument
    · exact ih hothers a ha

theorem isComplete_of_overriddenArguments {override : Value}
    (h : (overriddenArguments route override).outcome = .ok arguments) :
    IsComplete route arguments := by
  unfold overriddenArguments at h
  split at h
  · cases h
  rw [Report.outcome_bind_eq_ok] at h
  obtain ⟨written, _, h⟩ := h
  rw [Report.outcome_bind_eq_ok] at h
  obtain ⟨checked, hchecked, h⟩ := h
  split at h
  · next hmissing =>
    cases h
    have hforall := forall_of_checkArguments hchecked
    refine ⟨fun a ha ↦ (hforall a ha).1, fun name hname ↦ ?_, fun a ha ↦ (hforall a ha).2⟩
    have hpassed := List.filter_eq_nil_iff.mp hmissing name hname
    rw [Bool.not_eq_true, Bool.not_eq_false', List.any_eq_true] at hpassed
    obtain ⟨a, ha, hpasses⟩ := hpassed
    exact ⟨a, ha, passes_iff.mp hpasses⟩
  · cases h

/-! ## The default order -/

theorem isComplete_genericArguments (route : Route) :
    IsComplete route (genericArguments route) := by
  constructor
  · intro a ha hkind
    simp only [genericArguments, List.mem_append, List.mem_map] at ha
    rcases ha with (⟨name, hname, rfl⟩ | ha) | ha
    · exact ⟨name, hname, rfl⟩
    · split at ha <;> simp_all [Argument.plain]
    · split at ha <;> simp_all [Argument.plain]
  · intro name hname
    refine ⟨Argument.plain .path name, ?_, rfl, rfl⟩
    exact List.mem_append_left _ (List.mem_append_left _ (List.mem_map_of_mem hname))
  · intro a ha hkind
    simp only [genericArguments, List.mem_append, List.mem_map] at ha
    rcases ha with (⟨name, _, rfl⟩ | ha) | ha
    · cases hkind
    · split at ha <;> simp_all [Argument.plain]
    · split at ha
      · simp at ha
      · next hbody => simpa [Option.isSome_iff_ne_none] using hbody

/-- Every accepted call is complete. -/
theorem isComplete_of_argumentsOf {overrides : Overrides}
    (h : (argumentsOf overrides route).outcome = .ok arguments) : IsComplete route arguments := by
  rw [argumentsOf] at h
  cases hoverride : override? overrides route.operation with
  | some override =>
    rw [hoverride] at h
    exact isComplete_of_overriddenArguments h
  | none =>
    rw [hoverride] at h
    have hgeneric : genericArguments route = arguments := by simpa using h
    exact hgeneric ▸ isComplete_genericArguments route

theorem outcome_argumentsOf_of_bind {overrides : Overrides} {call : Call}
    (h : (Call.bind overrides route).outcome = .ok call) :
    (argumentsOf overrides route).outcome = .ok call.arguments := by
  rw [Call.bind, Report.outcome_bind_eq_ok] at h
  obtain ⟨arguments, harguments, h⟩ := h
  rw [Report.outcome_pure, Except.ok.injEq] at h
  rw [← h]
  exact harguments

/-! ## Routes under another name -/

/-- The name of a route has no part in its call. -/
theorem argumentsOf_withName (overrides : Overrides) (route : Route) (name : String) :
    argumentsOf overrides { route with name } = argumentsOf overrides route := by
  have hcheck : checkArguments { route with name } = checkArguments route := by
    funext written
    induction written with
    | nil => rfl
    | cons entries rest ih =>
      rw [checkArguments, checkArguments, ih]
      rfl
  have hoverridden (override : Value) : overriddenArguments { route with name } override =
      overriddenArguments route override := by
    rw [overriddenArguments, hcheck]
    rfl
  have hgeneric : genericArguments { route with name } = genericArguments route := rfl
  simp only [argumentsOf, hoverridden, hgeneric]

/-! ## Built-in overrides -/

open Value (Entries)

/-- The failure of arguments that pass none of some path parameters. -/
def leftOut? (operation : String) (params : List String) : Option Failure :=
  if params = [] then none else some (.overrideLeavesOut operation params)

/-- The argument that the override for listings states. -/
def listingArgument : Entries :=
  [(.text "kind", .text "body"), (.text "key", .text Route.bodyKeyword)]

/-- How the built-in overrides refuse an operation with some path parameters and perhaps a body. -/
def misfit? (operation : String) (params : List String) (hasBody : Bool) : Option Failure :=
  if operation = "listCreate" then
    if hasBody then leftOut? operation params
    else some (.invalidOverride operation (.map listingArgument))
  else if operation = "terminateAllCreate" then leftOut? operation params
  else none

theorem missing_of_forall {arguments : List Argument} (h : ∀ a ∈ arguments, a.kind ≠ .path) :
    missing route arguments = route.pathParams.names := by
  apply List.filter_eq_self.mpr
  intro name _
  rw [Bool.not_eq_true', List.any_eq_false]
  intro a ha hpasses
  exact h a ha (passes_iff.mp hpasses).1

/-- Stated arguments of which none passes a path parameter. -/
theorem failure?_overriddenArguments {items : List Value} {written : List Entries}
    {arguments : List Argument} (hwritten : (overrideEntries items).outcome = .ok written)
    (harguments : (checkArguments route written).outcome = .ok arguments)
    (hpath : ∀ a ∈ arguments, a.kind ≠ .path) :
    (overriddenArguments route (.list items)).failure? =
      leftOut? route.operation route.pathParams.names := by
  have hitems : items? (.list items) = some items := rfl
  rw [overriddenArguments, hitems]
  dsimp only
  rw [Report.failure?_bind_of_ok hwritten, Report.failure?_bind_of_ok harguments,
    missing_of_forall hpath, leftOut?]
  cases route.pathParams.names <;> rfl

theorem failure?_argumentsOf_listing (hoperation : route.operation = "listCreate") :
    (argumentsOf [] route).failure? =
      misfit? route.operation route.pathParams.names route.body.isSome := by
  have hoverride : override? [] route.operation = some (.list [.map listingArgument]) := by
    rw [hoperation]
    rfl
  have hwritten : (overrideEntries [.map listingArgument]).outcome = .ok [listingArgument] := rfl
  have hcheck : checkArgument route listingArgument =
      if route.body.isNone then .fail (.invalidOverride route.operation (.map listingArgument))
      else pure ⟨.body, .text Route.bodyKeyword, listingArgument⟩ := rfl
  rw [argumentsOf, hoverride, misfit?, if_pos hoperation]
  dsimp only
  cases hbody : route.body with
  | none =>
    rw [hbody] at hcheck
    have hitems : items? (.list [.map listingArgument]) = some [.map listingArgument] := rfl
    rw [overriddenArguments, hitems]
    dsimp only
    rw [Report.failure?_bind_of_ok hwritten, checkArguments, hcheck]
    rfl
  | some schema =>
    rw [hbody] at hcheck
    have harguments : (checkArguments route [listingArgument]).outcome =
        .ok [⟨.body, .text Route.bodyKeyword, listingArgument⟩] := by
      rw [checkArguments, hcheck]
      rfl
    exact failure?_overriddenArguments hwritten harguments (by simp)

/-- A route that no caller overrides is refused exactly as the built-in overrides refuse it. -/
theorem failure?_argumentsOf_nil (route : Route) :
    (argumentsOf [] route).failure? =
      misfit? route.operation route.pathParams.names route.body.isSome := by
  by_cases hlisting : route.operation = "listCreate"
  · exact failure?_argumentsOf_listing hlisting
  by_cases htermination : route.operation = "terminateAllCreate"
  · have hoverride : override? [] route.operation = some (.list []) := by
      rw [htermination]
      rfl
    rw [argumentsOf, hoverride, misfit?, if_neg hlisting, if_pos htermination]
    exact failure?_overriddenArguments rfl rfl (by simp)
  · have hoverride : override? [] route.operation = none := by
      have hlisting := beq_eq_false_iff_ne.mpr hlisting
      have htermination := beq_eq_false_iff_ne.mpr htermination
      simp [override?, Named.find?, builtinOverrides, List.lookup_cons, hlisting, htermination]
    rw [argumentsOf, hoverride, misfit?, if_neg hlisting, if_neg htermination]
    rfl

end ApiCompiler.Call
