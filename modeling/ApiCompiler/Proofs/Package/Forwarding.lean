import ApiCompiler.Package.Forwarding
import ApiCompiler.Proofs.Named
import ApiCompiler.Proofs.Naming.Assigned
import ApiCompiler.Proofs.Report
import ApiCompiler.Proofs.Route
import ApiCompiler.Proofs.Route.Call

/-!
# The arguments of a forwarding expression

A forwarding expression reads fields of the input by property. It is written exactly when all of
them are there; otherwise writing it fails with the first property that is missing. Arguments up to
the first query or body argument are passed by position, all others by keyword.
-/

namespace ApiCompiler.Package

variable {fields params : Named String} {route : Route} {arguments : List Argument}

/-- The property of the input that has to be there for an argument. -/
def lookup? (route : Route) (argument : Argument) : Option String :=
  match argument.kind with
  | .path => some (keyText argument)
  | .query => none
  | .body => some route.bodyKey

/-- The properties of the input that have to be there for the arguments of a call. -/
def lookups (route : Route) (arguments : List Argument) : List String :=
  arguments.filterMap (lookup? route)

/-- The properties of the input that a call binds: path parameters, the query parameters that do not
collide with them, and the body. -/
def boundKeys (route : Route) (arguments : List Argument) : List String :=
  arguments.flatMap fun a ↦
    match a.kind with
    | .path => [keyText a]
    | .query => route.ownQueryNames
    | .body => [route.bodyKey]

/-- The value under a name that is present. -/
def valueAt (entries : Named String) (name : String) : String :=
  (entries.find? name).getD ""

/-- What is passed for an argument. -/
def passedValue (fields : Named String) (route : Route) (argument : Argument) : Passed :=
  match argument.kind with
  | .path => .field (valueAt fields (keyText argument))
  | .query => .mapping (queryEntries fields route)
  | .body => .field (valueAt fields route.bodyKey)

/-- The parameter that an argument is bound to by name. -/
def keywordOf (params : Named String) (argument : Argument) : String :=
  match argument.kind with
  | .path => valueAt params (keyText argument)
  | .query => Route.queryKeyword
  | .body => Route.bodyKeyword

/-- Whether an argument is passed by keyword, given whether one before was. -/
def byKeyword (keyword : Bool) (argument : Argument) : Bool :=
  keyword || argument.kind != .path

/-- The arguments of a forwarding expression that misses nothing. -/
def passedArguments (fields params : Named String) (route : Route) :
    (keyword : Bool) → List Argument → List PassedArgument
  | _, [] => []
  | keyword, a :: rest =>
    ⟨if byKeyword keyword a then some (keywordOf params a) else none, passedValue fields route a⟩ ::
      passedArguments fields params route (byKeyword keyword a) rest

/-! ## Keys of a call -/

theorem lookups_subset_boundKeys (route : Route) (arguments : List Argument) :
    lookups route arguments ⊆ boundKeys route arguments := by
  intro key hkey
  obtain ⟨a, ha, hlookup⟩ := List.mem_filterMap.mp hkey
  refine List.mem_flatMap.mpr ⟨a, ha, ?_⟩
  rw [lookup?] at hlookup
  split at hlookup <;> simp_all

/-- Everything that a complete call binds is a property of the route's own input. -/
theorem boundKeys_subset_inputProperties (h : Call.IsComplete route arguments) :
    boundKeys route arguments ⊆ Named.names route.inputProperties := by
  intro key hkey
  rw [Route.names_inputProperties, List.mem_append, List.mem_append]
  obtain ⟨a, ha, hkey⟩ := List.mem_flatMap.mp hkey
  cases hkind : a.kind with
  | path =>
    obtain ⟨name, hname, htext⟩ := h.path_mem a ha hkind
    rw [hkind, List.mem_singleton, keyText, htext] at hkey
    exact .inl (hkey ▸ hname)
  | query =>
    rw [hkind] at hkey
    exact .inr (.inl hkey)
  | body =>
    rw [hkind, List.mem_singleton] at hkey
    refine .inr (.inr ?_)
    rw [Route.bodyKeys, h.body_isSome a ha hkind, if_pos rfl, List.mem_singleton]
    exact hkey

theorem keyText_mem_clientParams {route : Route} {arguments : List Argument}
    (h : Call.IsComplete route arguments) : ∀ a ∈ arguments, a.kind = .path →
      keyText a ∈ (clientParams route).names := by
  intro a ha hkind
  obtain ⟨name, hname, hkey⟩ := h.path_mem a ha hkind
  rw [names_clientParams, keyText, hkey]
  exact hname

/-! ## Values that are present -/

theorem find?_eq_valueAt {entries : Named String} {name : String} (h : name ∈ entries.names) :
    entries.find? name = some (valueAt entries name) := by
  obtain ⟨value, hvalue⟩ := Named.exists_find?_of_mem h
  rw [valueAt, hvalue, Option.getD_some]

theorem valueAt_mem {entries : Named String} {name : String} (h : name ∈ entries.names) :
    valueAt entries name ∈ entries.map Prod.snd :=
  List.mem_map.mpr ⟨_, Named.mem_of_find? (find?_eq_valueAt h), rfl⟩

theorem valueAt_inj {entries : Named String} (h : (entries.map Prod.snd).Nodup)
    {name other : String} (hname : name ∈ entries.names) (hother : other ∈ entries.names) :
    valueAt entries name = valueAt entries other ↔ name = other := by
  refine ⟨fun heq ↦ ?_, fun heq ↦ heq ▸ rfl⟩
  exact Named.eq_of_find?_eq h (find?_eq_valueAt hname) (heq ▸ find?_eq_valueAt hother)

theorem map_snd_eq_map_valueAt {entries : Named String} (h : entries.names.Nodup) :
    entries.map Prod.snd = entries.names.map (valueAt entries) := by
  rw [Named.names, List.map_map]
  refine List.map_congr_left fun entry hentry ↦ ?_
  rw [Function.comp_apply, valueAt, Named.find?_of_mem h hentry, Option.getD_some]

/-! ## One argument -/

theorem outcome_require {entries : Named String} {name value : String}
    (h : entries.find? name = some value) : (require entries name).outcome = .ok value := by
  rw [require, h]
  rfl

theorem find?_of_require {entries : Named String} {name value : String}
    (h : (require entries name).outcome = .ok value) : entries.find? name = some value := by
  unfold require at h
  split at h
  · next found hfound =>
    cases h
    exact hfound
  · cases h

theorem outcome_require_of_not_mem {entries : Named String} {name : String}
    (h : name ∉ entries.names) : (require entries name).outcome = .error (.missingKey name) := by
  rw [require, Named.find?_eq_none_iff.mpr h]
  rfl

/-- An argument whose property is there is passed in front of the others. -/
theorem outcome_passArguments_cons {a : Argument}
    (hparams : a.kind = .path → keyText a ∈ params.names)
    (hfields : ∀ key ∈ lookup? route a, key ∈ fields.names) (keyword : Bool)
    (rest : List Argument) :
    (passArguments fields params route keyword (a :: rest)).outcome =
      (passArguments fields params route (byKeyword keyword a) rest).outcome.map fun others ↦
        ⟨if byKeyword keyword a then some (keywordOf params a) else none,
          passedValue fields route a⟩ :: others := by
  have hreturn (argument : PassedArgument) (following : Report (List PassedArgument)) :
      (do return argument :: (← following)).outcome =
        following.outcome.map (argument :: ·) := by
    rw [Report.outcome_bind]
    rfl
  cases hkind : a.kind with
  | path =>
    have hlookup : lookup? route a = some (keyText a) := by rw [lookup?, hkind]
    have hfield := find?_eq_valueAt (hfields (keyText a) hlookup)
    have hparam := find?_eq_valueAt (hparams hkind)
    simp only [passArguments, hkind, byKeyword, keywordOf, passedValue]
    rw [Report.outcome_bind_of_ok (outcome_require hfield)]
    cases keyword with
    | true =>
      have hname : (some <$> require params (keyText a)).outcome =
          .ok (some (valueAt params (keyText a))) := by
        rw [require, hparam]
        rfl
      rw [if_pos rfl, Report.outcome_bind_of_ok hname, hreturn]
      rfl
    | false =>
      rw [if_neg (by simp), Report.outcome_bind_of_ok (Report.outcome_pure none), hreturn]
      rfl
  | query =>
    simp only [passArguments, hkind, byKeyword, keywordOf, passedValue]
    rw [hreturn]
    cases keyword <;> rfl
  | body =>
    have hlookup : lookup? route a = some route.bodyKey := by rw [lookup?, hkind]
    have hfield := find?_eq_valueAt (hfields route.bodyKey hlookup)
    simp only [passArguments, hkind, byKeyword, keywordOf, passedValue]
    rw [Report.outcome_bind_of_ok (outcome_require hfield), hreturn]
    cases keyword <;> rfl

/-- An argument whose property is not there fails. -/
theorem outcome_passArguments_cons_of_not_mem {a : Argument} {key : String}
    (hkey : lookup? route a = some key) (hfields : key ∉ fields.names) (keyword : Bool)
    (rest : List Argument) :
    (passArguments fields params route keyword (a :: rest)).outcome = .error (.missingKey key) := by
  rw [passArguments]
  cases hkind : a.kind with
  | path =>
    obtain rfl : keyText a = key := by simpa [lookup?, hkind] using hkey
    rw [Report.outcome_bind_eq_error]
    exact .inl (outcome_require_of_not_mem hfields)
  | query => simp [lookup?, hkind] at hkey
  | body =>
    obtain rfl : route.bodyKey = key := by simpa [lookup?, hkind] using hkey
    rw [Report.outcome_bind_eq_error]
    exact .inl (outcome_require_of_not_mem hfields)

/-! ## All arguments -/

theorem outcome_passArguments (fields : Named String) {arguments : List Argument}
    (hparams : ∀ a ∈ arguments, a.kind = .path → keyText a ∈ params.names)
    (hfields : ∀ key ∈ lookups route arguments, key ∈ fields.names) (keyword : Bool) :
    (passArguments fields params route keyword arguments).outcome =
      .ok (passedArguments fields params route keyword arguments) := by
  induction arguments generalizing keyword with
  | nil => rfl
  | cons a rest ih =>
    have hfirst : ∀ key ∈ lookup? route a, key ∈ fields.names := fun key hkey ↦
      hfields key (List.mem_filterMap.mpr ⟨a, List.mem_cons_self .., hkey⟩)
    have hrest : ∀ key ∈ lookups route rest, key ∈ fields.names := fun key hkey ↦ by
      obtain ⟨b, hb, hkey⟩ := List.mem_filterMap.mp hkey
      exact hfields key (List.mem_filterMap.mpr ⟨b, List.mem_cons_of_mem a hb, hkey⟩)
    rw [outcome_passArguments_cons (hparams a (List.mem_cons_self ..)) hfirst,
      ih (fun b hb ↦ hparams b (List.mem_cons_of_mem a hb)) hrest]
    rfl

/-- The first property that is not there is the one that is reported. -/
theorem outcome_passArguments_of_find? {arguments : List Argument} {key : String}
    (hparams : ∀ a ∈ arguments, a.kind = .path → keyText a ∈ params.names)
    (hkey : (lookups route arguments).find? (fun key ↦ !fields.names.contains key) = some key)
    (keyword : Bool) :
    (passArguments fields params route keyword arguments).outcome = .error (.missingKey key) := by
  induction arguments generalizing keyword with
  | nil => simp [lookups] at hkey
  | cons a rest ih =>
    have hothers := ih fun b hb ↦ hparams b (List.mem_cons_of_mem a hb)
    rw [lookups, List.filterMap_cons] at hkey
    cases hlookup : lookup? route a with
    | none =>
      have hfirst : ∀ key ∈ lookup? route a, key ∈ fields.names := by simp [hlookup]
      rw [hlookup] at hkey
      rw [outcome_passArguments_cons (hparams a (List.mem_cons_self ..)) hfirst, hothers hkey]
      rfl
    | some first =>
      rw [hlookup] at hkey
      dsimp only at hkey
      rw [List.find?_cons] at hkey
      by_cases hmem : first ∈ fields.names
      · have hfirst : ∀ key ∈ lookup? route a, key ∈ fields.names := by simpa [hlookup] using hmem
        have hbeq : (!fields.names.contains first) = false := by simpa using hmem
        rw [hbeq] at hkey
        rw [outcome_passArguments_cons (hparams a (List.mem_cons_self ..)) hfirst, hothers hkey]
        rfl
      · have hbeq : (!fields.names.contains first) = true := by simpa using hmem
        rw [hbeq] at hkey
        obtain rfl : first = key := by simpa using hkey
        exact outcome_passArguments_cons_of_not_mem hlookup hmem keyword rest

/-! ## Arguments by position and by keyword -/

/-- The arguments before the first query or body argument, which are passed by position. -/
def leading (arguments : List Argument) : List Argument :=
  arguments.takeWhile fun a ↦ a.kind == .path

/-- The arguments from the first query or body argument on. -/
def following (arguments : List Argument) : List Argument :=
  arguments.dropWhile fun a ↦ a.kind == .path

theorem leading_append_following (arguments : List Argument) :
    leading arguments ++ following arguments = arguments :=
  List.takeWhile_append_dropWhile

theorem kind_of_mem_leading {a : Argument} (h : a ∈ leading arguments) : a.kind = .path := by
  have hall := List.all_eq_true.mp (List.all_takeWhile (l := arguments)) a h
  exact beq_iff_eq.mp hall

theorem passedArguments_true (arguments : List Argument) :
    passedArguments fields params route true arguments =
      arguments.map fun a ↦ ⟨some (keywordOf params a), passedValue fields route a⟩ := by
  induction arguments with
  | nil => rfl
  | cons a rest ih => rw [passedArguments, List.map_cons, byKeyword, Bool.true_or, ih, if_pos rfl]

theorem passedArguments_false (arguments : List Argument) :
    passedArguments fields params route false arguments =
      (leading arguments).map (fun a ↦ ⟨none, passedValue fields route a⟩) ++
        (following arguments).map
          fun a ↦ ⟨some (keywordOf params a), passedValue fields route a⟩ := by
  induction arguments with
  | nil => rfl
  | cons a rest ih =>
    rw [passedArguments, leading, following, List.takeWhile_cons, List.dropWhile_cons]
    cases hpath : a.kind == .path with
    | true =>
      have hkeyword : byKeyword false a = false := by simpa [byKeyword] using hpath
      rw [hkeyword, ih]
      rfl
    | false =>
      have hkeyword : byKeyword false a = true := by simpa [byKeyword] using hpath
      rw [hkeyword, passedArguments_true]
      rfl

end ApiCompiler.Package
