import ApiCompiler.Proofs.Package.Inputs

/-!
# Binding of forwarded arguments

The arguments of a call are bound to the parameters of a client method by the rules of the generated
language: those without a keyword go to the path parameters in order, and every other one to the
parameter it names. Whatever order a caller states for an operation, the arguments before the first
query or body argument are passed by position. The parameters of the method come in template order,
so the call binds what it should exactly when these arguments begin the template order and nothing
is passed twice.
-/

namespace ApiCompiler.Package

open Document.Sample (object)

/-! ## The rules of the language -/

/-- The parameters of a function: those that have to be given, by position or by name, and those
that may be given by name only. -/
structure Signature where
  /-- The required parameters in order. -/
  required : List String
  /-- The optional parameters. -/
  optional : List String

/-- The signature of a client method on the attribute of a resource. -/
def ClientMethod.signature (method : ClientMethod) : Signature :=
  ⟨method.params.map Prod.snd, [Route.queryKeyword, Route.bodyKeyword]⟩

namespace Signature

/-- The parameters that arguments are bound to, each with what is passed for it. -/
def bound (signature : Signature) (arguments : List PassedArgument) : Named Passed :=
  signature.required.zip
      ((arguments.takeWhile fun a ↦ a.keyword.isNone).map PassedArgument.value) ++
    (arguments.dropWhile fun a ↦ a.keyword.isNone).filterMap fun a ↦
      a.keyword.map fun name ↦ (name, a.value)

/-- The rules for a call: no argument by position after one by keyword, no more of them than
required parameters, no parameter bound twice, no unknown one, and every required one bound. -/
structure Accepts (signature : Signature) (arguments : List PassedArgument) : Prop where
  keyword_after : ∀ a ∈ arguments.dropWhile fun a ↦ a.keyword.isNone, a.keyword.isSome = true
  length_le : (arguments.takeWhile fun a ↦ a.keyword.isNone).length ≤ signature.required.length
  bound_nodup : (signature.bound arguments).names.Nodup
  bound_subset : (signature.bound arguments).names ⊆ signature.required ++ signature.optional
  required_subset : signature.required ⊆ (signature.bound arguments).names

end Signature

/-- A call that is accepted by a client method and gives the parameter of each path parameter the
field of that path parameter. -/
structure ClientMethod.Receives (method : ClientMethod) (fields : Named String)
    (arguments : List PassedArgument) : Prop where
  accepts : method.signature.Accepts arguments
  find?_bound : ∀ name ∈ method.params.names, ∃ param field,
    method.params.find? name = some param ∧ fields.find? name = some field ∧
      (method.signature.bound arguments).find? param = some (.field field)

/-! ## Orders of arguments -/

/-- What an argument passes: a path parameter, the query, or the body. -/
def target (a : Argument) : ArgumentKind × Option String :=
  (a.kind, if a.kind = .path then some (keyText a) else none)

/-- Arguments that begin in template order and pass nothing twice. -/
structure IsBindable (route : Route) (arguments : List Argument) : Prop where
  leading_isPrefix : (leading arguments).map keyText <+: route.pathParams.names
  targets_nodup : (arguments.map target).Nodup

instance (route : Route) (arguments : List Argument) : Decidable (IsBindable route arguments) :=
  decidable_of_iff
    ((leading arguments).map keyText <+: route.pathParams.names ∧ (arguments.map target).Nodup)
    ⟨fun h ↦ ⟨h.1, h.2⟩, fun h ↦ ⟨h.leading_isPrefix, h.targets_nodup⟩⟩

variable {fields params : Named String} {route : Route} {arguments : List Argument}

/-! ## Arguments by position and by keyword -/

/-- Exactly the leading arguments are passed without a keyword. -/
theorem takeWhile_passedArguments (fields params : Named String) (route : Route)
    (arguments : List Argument) :
    (passedArguments fields params route false arguments).takeWhile (fun a ↦ a.keyword.isNone) =
        (leading arguments).map (fun a ↦ ⟨none, passedValue fields route a⟩) ∧
      (passedArguments fields params route false arguments).dropWhile (fun a ↦ a.keyword.isNone) =
        (following arguments).map
          fun a ↦ ⟨some (keywordOf params a), passedValue fields route a⟩ := by
  have hleading : ∀ a ∈ (leading arguments).map
      (fun a ↦ (⟨none, passedValue fields route a⟩ : PassedArgument)), a.keyword.isNone = true := by
    intro a ha
    obtain ⟨b, _, rfl⟩ := List.mem_map.mp ha
    rfl
  rw [passedArguments_false, List.takeWhile_append_of_pos hleading,
    List.dropWhile_append_of_pos hleading]
  cases following arguments <;> simp

/-! ## What keywords stand for -/

theorem valueAt_clientParams_not_mem {name : String} (h : name ∈ (clientParams route).names) :
    valueAt (clientParams route) name ∉ clientParameters :=
  (clientParams_isUsable (valueAt_mem h)).not_reserved

/-- The keywords of a complete call tell its arguments apart where they pass different things. -/
theorem keywordOf_inj (h : Call.IsComplete route arguments) {a b : Argument} (ha : a ∈ arguments)
    (hb : b ∈ arguments) :
    keywordOf (clientParams route) a = keywordOf (clientParams route) b ↔ target a = target b := by
  have hpath {c : Argument} (hc : c ∈ arguments) (hkind : c.kind = .path) :
      ∀ name ∈ clientParameters, valueAt (clientParams route) (keyText c) ≠ name := by
    rintro name hname rfl
    exact valueAt_clientParams_not_mem (keyText_mem_clientParams h c hc hkind) hname
  cases hkind : a.kind <;> cases hother : b.kind <;>
    simp only [keywordOf, target, hkind, hother, Prod.mk.injEq, true_and, if_true, if_false,
      reduceCtorEq, false_and, iff_false, Option.some.injEq]
  case path.path =>
    exact valueAt_inj (clientParams_nodup route) (keyText_mem_clientParams h a ha hkind)
      (keyText_mem_clientParams h b hb hother)
  case path.query => exact hpath ha hkind _ (by decide)
  case path.body => exact hpath ha hkind _ (by decide)
  case query.path => exact (hpath hb hother _ (by decide)).symm
  case query.body => decide
  case body.path => exact (hpath hb hother _ (by decide)).symm
  case body.query => decide

theorem nodup_keywords_iff (h : Call.IsComplete route arguments) :
    (arguments.map (keywordOf (clientParams route))).Nodup ↔ (arguments.map target).Nodup := by
  unfold List.Nodup
  rw [List.pairwise_map, List.pairwise_map]
  exact List.Pairwise.iff_of_mem fun ha hb ↦ not_congr (keywordOf_inj h ha hb)

/-! ## Calls of a client method -/

section Method

variable {method : ClientMethod} (hparams : method.params = clientParams route)
  (hnames : route.pathParams.names.Nodup)
include hparams hnames

theorem required_signature :
    method.signature.required = route.pathParams.names.map (valueAt (clientParams route)) := by
  have hnodup : (clientParams route).names.Nodup := names_clientParams route ▸ hnames
  rw [ClientMethod.signature, hparams, map_snd_eq_map_valueAt hnodup, names_clientParams]

theorem bound_passedArguments :
    method.signature.bound (passedArguments fields (clientParams route) route false arguments) =
      (route.pathParams.names.map (valueAt (clientParams route))).zip
          ((leading arguments).map (passedValue fields route)) ++
        (following arguments).map fun a ↦
          (keywordOf (clientParams route) a, passedValue fields route a) := by
  obtain ⟨htake, hdrop⟩ :=
    takeWhile_passedArguments fields (clientParams route) route arguments
  rw [Signature.bound, htake, hdrop, required_signature hparams hnames, List.map_map,
    List.filterMap_map]
  congr 1
  exact congrFun List.filterMap_eq_map (following arguments)

/-- Arguments that begin in template order are bound as if all of them were keywords. -/
theorem bound_of_isPrefix (fields : Named String)
    (hbegin : (leading arguments).map keyText <+: route.pathParams.names) :
    method.signature.bound (passedArguments fields (clientParams route) route false arguments) =
      arguments.map fun a ↦ (keywordOf (clientParams route) a, passedValue fields route a) := by
  obtain ⟨rest, hrest⟩ := hbegin
  have hkeywords : ((leading arguments).map keyText).map (valueAt (clientParams route)) =
      (leading arguments).map (keywordOf (clientParams route)) := by
    rw [List.map_map]
    refine List.map_congr_left fun a ha ↦ ?_
    rw [Function.comp_apply, keywordOf, kind_of_mem_leading ha]
  have hzip : (((leading arguments).map keyText ++ rest).map (valueAt (clientParams route))).zip
      ((leading arguments).map (passedValue fields route)) =
      (leading arguments).map fun a ↦
        (keywordOf (clientParams route) a, passedValue fields route a) := by
    rw [List.map_append, hkeywords, ← List.append_nil (List.map (passedValue fields route) _),
      List.zip_append (by simp), List.zip_nil_right, List.append_nil, List.zip_map']
  calc
    method.signature.bound (passedArguments fields (clientParams route) route false arguments) =
        ((leading arguments).map fun a ↦
          (keywordOf (clientParams route) a, passedValue fields route a)) ++
        (following arguments).map fun a ↦
          (keywordOf (clientParams route) a, passedValue fields route a) := by
      rw [bound_passedArguments hparams hnames, ← hrest, hzip]
    _ = arguments.map fun a ↦ (keywordOf (clientParams route) a, passedValue fields route a) := by
      rw [← List.map_append, leading_append_following]

omit hnames in
theorem names_params : method.params.names = route.pathParams.names := by
  rw [hparams, names_clientParams]

omit hparams hnames in
/-- Every path parameter is passed by some argument, under its parameter and with its field. -/
theorem exists_argument (fields : Named String) (h : Call.IsComplete route arguments)
    {name : String} (hname : name ∈ route.pathParams.names) : ∃ a ∈ arguments,
      keywordOf (clientParams route) a = valueAt (clientParams route) name ∧
        passedValue fields route a = .field (valueAt fields name) := by
  obtain ⟨a, ha, hkind, hkey⟩ := h.path_passed name hname
  have htext : keyText a = name := by rw [keyText, hkey]; rfl
  exact ⟨a, ha, by rw [keywordOf, hkind, htext], by rw [passedValue, hkind, htext]⟩

theorem receives_of_isBindable (hcomplete : Call.IsComplete route arguments)
    (hfields : route.pathParams.names ⊆ fields.names) (h : IsBindable route arguments) :
    method.Receives fields
      (passedArguments fields (clientParams route) route false arguments) := by
  obtain ⟨hbegin, htargets⟩ := h
  obtain ⟨htake, hdrop⟩ := takeWhile_passedArguments fields (clientParams route) route arguments
  have hrequired := required_signature hparams hnames
  have hbound := bound_of_isPrefix hparams hnames fields hbegin
  have hkeywords : (method.signature.bound (passedArguments fields (clientParams route) route false
      arguments)).names = arguments.map (keywordOf (clientParams route)) := by
    rw [hbound, Named.names, List.map_map]
    rfl
  have hnodup := hkeywords ▸ (nodup_keywords_iff hcomplete).mpr htargets
  refine ⟨⟨?_, ?_, hnodup, ?_, ?_⟩, ?_⟩
  · intro a ha
    rw [hdrop] at ha
    obtain ⟨b, _, rfl⟩ := List.mem_map.mp ha
    rfl
  · rw [htake, hrequired, List.length_map, List.length_map]
    exact List.length_map keyText ▸ hbegin.length_le
  · intro name hname
    rw [hkeywords] at hname
    obtain ⟨a, ha, rfl⟩ := List.mem_map.mp hname
    rw [hrequired]
    cases hkind : a.kind with
    | path =>
      have hmem := names_clientParams route ▸ keyText_mem_clientParams hcomplete a ha hkind
      refine List.mem_append_left _ (List.mem_map.mpr ⟨keyText a, hmem, ?_⟩)
      rw [keywordOf, hkind]
    | query => exact List.mem_append_right _ (by simp [keywordOf, hkind, ClientMethod.signature])
    | body => exact List.mem_append_right _ (by simp [keywordOf, hkind, ClientMethod.signature])
  · intro param hparam
    rw [hrequired] at hparam
    obtain ⟨name, hname, rfl⟩ := List.mem_map.mp hparam
    obtain ⟨a, ha, hkeyword, _⟩ := exists_argument fields hcomplete hname
    rw [hkeywords]
    exact List.mem_map.mpr ⟨a, ha, hkeyword⟩
  · intro name hname
    rw [names_params hparams] at hname
    obtain ⟨a, ha, hkeyword, hvalue⟩ := exists_argument fields hcomplete hname
    refine ⟨valueAt (clientParams route) name, valueAt fields name, ?_, ?_, ?_⟩
    · rw [hparams]
      exact find?_eq_valueAt (names_clientParams route ▸ hname)
    · exact find?_eq_valueAt (hfields hname)
    · refine Named.find?_of_mem hnodup ?_
      rw [hbound]
      exact List.mem_map.mpr ⟨a, ha, by rw [hkeyword, hvalue]⟩

/-- A leading argument is bound to the path parameter at its place. -/
theorem mem_bound_of_leading (fields : Named String) {i : Nat}
    (hi : i < (leading arguments).length)
    (hlength : (leading arguments).length ≤ route.pathParams.names.length) :
    (valueAt (clientParams route) route.pathParams.names[i],
        .field (valueAt fields (keyText (leading arguments)[i]))) ∈
      method.signature.bound
        (passedArguments fields (clientParams route) route false arguments) := by
  have hvalue : passedValue fields route (leading arguments)[i] =
      .field (valueAt fields (keyText (leading arguments)[i])) := by
    rw [passedValue, kind_of_mem_leading (List.getElem_mem hi)]
  rw [bound_passedArguments hparams hnames, ← hvalue]
  refine List.mem_append_left _ (List.mem_iff_getElem.mpr ⟨i, ?_, ?_⟩)
  · rw [List.length_zip, List.length_map, List.length_map]
    omega
  · rw [List.getElem_zip, List.getElem_map, List.getElem_map]

theorem isBindable_of_receives (hcomplete : Call.IsComplete route arguments)
    (hfields : route.pathParams.names ⊆ fields.names) (hdistinct : (fields.map Prod.snd).Nodup)
    (h : method.Receives fields
      (passedArguments fields (clientParams route) route false arguments)) :
    IsBindable route arguments := by
  obtain ⟨haccepts, hreceived⟩ := h
  have hlength : (leading arguments).length ≤ route.pathParams.names.length := by
    have hle := haccepts.length_le
    rw [(takeWhile_passedArguments fields (clientParams route) route arguments).1,
      required_signature hparams hnames, List.length_map, List.length_map] at hle
    exact hle
  have hbegin : (leading arguments).map keyText <+: route.pathParams.names := by
    rw [List.prefix_iff_getElem]
    refine ⟨(List.length_map keyText).symm ▸ hlength, fun i hi ↦ ?_⟩
    rw [List.length_map] at hi
    have hname : route.pathParams.names[i] ∈ route.pathParams.names := List.getElem_mem _
    have hkey : keyText (leading arguments)[i] ∈ route.pathParams.names := by
      have hmem := List.getElem_mem hi
      rw [← names_clientParams]
      exact keyText_mem_clientParams hcomplete _
        (List.takeWhile_subset _ hmem) (kind_of_mem_leading hmem)
    have hknown : route.pathParams.names[i] ∈ (clientParams route).names := by
      rw [names_clientParams]
      exact hname
    obtain ⟨param, field, hparam, hfield, hfound⟩ :=
      hreceived route.pathParams.names[i] (by rw [hparams]; exact hknown)
    rw [hparams, find?_eq_valueAt hknown, Option.some.injEq] at hparam
    rw [find?_eq_valueAt (hfields hname), Option.some.injEq] at hfield
    -- what the argument passes is bound to the parameter, which has the field of the template
    have hbound := Named.find?_of_mem haccepts.bound_nodup
      (mem_bound_of_leading hparams hnames fields hi hlength)
    rw [hparam, hfound, ← hfield, Option.some.injEq, Passed.field.injEq] at hbound
    rw [List.getElem_map]
    exact ((valueAt_inj hdistinct (hfields hname) (hfields hkey)).mp hbound).symm
  refine ⟨hbegin, (nodup_keywords_iff hcomplete).mp ?_⟩
  have hnodup := haccepts.bound_nodup
  rw [bound_of_isPrefix hparams hnames fields hbegin, Named.names, List.map_map] at hnodup
  exact hnodup

end Method

/-! ## Calls of a package -/

/-- A written procedure with the arguments that the overrides give its call: the call goes to the
client method, whose parameters stand for the templates of the path, and reads fields of the model
of its input. -/
structure IsForwarded (overrides : Overrides) (rendered : RouterContext) (p : Procedure)
    (pair : Endpoint × ClientMethod) (fields : Named String) (arguments : List Argument) :
    Prop where
  outcome_arguments : (Call.argumentsOf overrides p.route).outcome = .ok arguments
  resource_eq : pair.1.call.resource = rendered.nspace
  method_eq : pair.1.call.method = pair.2.function
  params_names : pair.2.params.names = PathTemplate.params pair.2.path
  exists_model : ∃ model ∈ rendered.models, model.name = pair.1.inputModel ∧ model.names = fields

/-- In every package, whatever the overrides state, a call gives each parameter of its client method
the right value exactly when its arguments begin in template order and pass nothing twice. -/
theorem receives_iff_isBindable {document : Value} {overrides : Overrides}
    {compilation : Compilation} {apiName sourceUrl title : String} {context : Context}
    (h : (Compilation.ofDocument document overrides).outcome = .ok compilation)
    (hcontext : (contextOf compilation apiName sourceUrl title).outcome = .ok context) :
    List.Forall₂ (fun router rendered ↦
        (rendered.models.map Model.name).Nodup ∧
        rendered.endpoints.length = rendered.methods.length ∧
        List.Forall₂ (fun p pair ↦ ∃ fields arguments,
            IsForwarded overrides rendered p pair fields arguments ∧
            (pair.2.Receives fields pair.1.call.arguments ↔ IsBindable p.route arguments))
          router.procedures (rendered.endpoints.zip rendered.methods))
      compilation.registry context.routers := by
  have hwritten := forall₂_of_contextOf h hcontext
  refine List.forall₂_iff_zip.mpr ⟨hwritten.length_eq, fun {router rendered} hpair ↦ ?_⟩
  have hrouter := (List.of_mem_zip hpair).1
  have hrendered := (List.forall₂_iff_zip.mp hwritten).2 hpair
  have hconsistent :=
    (Compilation.isConsistent_registry h).router_isConsistent router hrouter
  refine ⟨hrendered.models_nodup, hrendered.length_eq, List.forall₂_iff_zip.mpr
    ⟨hrendered.forall_procedure.length_eq, fun {p pair} hmem ↦ ?_⟩⟩
  have hp := (List.of_mem_zip hmem).1
  obtain ⟨model, hmodel, hprocedure, schema, hschema, hfields⟩ :=
    (List.forall₂_iff_zip.mp hrendered.forall_procedure).2 hmem
  have hcompiled := Compilation.isCompiled_of_mem h hrouter hp
  obtain ⟨call, hcall, harguments⟩ := hcompiled.exists_call
  obtain ⟨written, hwrittenCall, hforwarding⟩ := hprocedure.call_eq
  cases hcall.symm.trans hwrittenCall
  have hcomplete := Call.isComplete_of_argumentsOf harguments
  have hplace := hconsistent.call_eq p hp call hcall
  have hnames := hcompiled.isWellFormed.pathParams_nodup
  -- the context was written, so the model has every path parameter
  have hpresent : p.route.pathParams.names ⊆ model.names.names := by
    intro name hname
    obtain ⟨a, ha, hkind, hkey⟩ := hcomplete.path_passed name hname
    by_contra hmissing
    refine not_isLost_of_contextOf h hcontext hrouter hp name ⟨call, hcall, ?_, schema, hschema, ?_⟩
    · exact List.mem_filterMap.mpr ⟨a, ha, by rw [lookup?, hkind, keyText, hkey]; rfl⟩
    · rw [← hfields.names_eq]
      exact hmissing
  refine ⟨model.names, call.arguments, ⟨harguments, ?_, ?_, ?_, model, hmodel,
    hprocedure.inputModel_eq.symm, rfl⟩, ?_⟩
  · rw [hforwarding, hrendered.nspace_eq, hplace.1]
  · rw [hforwarding, hprocedure.function_eq, hplace.2]
  · rw [hprocedure.params_eq, hprocedure.path_eq, names_clientParams,
      hcompiled.isWellFormed.pathParams_names]
  · rw [hforwarding]
    exact ⟨isBindable_of_receives hprocedure.params_eq hnames hcomplete hpresent
        hfields.names_nodup,
      receives_of_isBindable hprocedure.params_eq hnames hcomplete hpresent⟩

/-- A read with two path parameters, and an override that states them in the other order. -/
def swappedDocument : Value :=
  object [("paths", object [("/r/\x7ba\x7d/\x7bb\x7d",
    object [("get", object [("operationId", .text "op")])])])]

/-- The path parameters in the other order. -/
def swappedOverrides : Overrides :=
  let path (name : String) := object [("kind", .text "path"), ("key", .text name)]
  [("op", .list [path "b", path "a"])]

/-- The call passes both path parameters by position in the other order, to the wrong parameters. -/
theorem swappedOverrides_misbind : ∃ compilation context,
    (Compilation.ofDocument swappedDocument swappedOverrides).outcome = .ok compilation ∧
    (contextOf compilation "Api" "" "").outcome = .ok context ∧
    ∃ rendered ∈ context.routers, ∃ pair ∈ rendered.endpoints.zip rendered.methods,
      pair.1.call.text = "ctx.api.r.op(input.b, input.a)" ∧
      ∃ model ∈ rendered.models, model.name = pair.1.inputModel ∧
        ¬ pair.2.Receives model.names pair.1.call.arguments := by
  obtain ⟨compilation, h, ⟨hne, hprocedures⟩, context, hcontext, htexts⟩ : ∃ compilation,
      (Compilation.ofDocument swappedDocument swappedOverrides).outcome = .ok compilation ∧
      (compilation.registry ≠ [] ∧ ∀ router ∈ compilation.registry, router.procedures ≠ [] ∧
        ∀ p ∈ router.procedures, ∃ arguments,
          (Call.argumentsOf swappedOverrides p.route).outcome = .ok arguments ∧
            ¬ IsBindable p.route arguments) ∧
      ∃ context, (contextOf compilation "Api" "" "").outcome = .ok context ∧
        ∀ rendered ∈ context.routers, ∀ endpoint ∈ rendered.endpoints,
          endpoint.call.text = "ctx.api.r.op(input.b, input.a)" := by
    decide +kernel
  obtain ⟨router, rest, hregistry⟩ := List.exists_cons_of_ne_nil hne
  obtain ⟨hnonempty, hunbindable⟩ := hprocedures router (by simp [hregistry])
  obtain ⟨p, others, hp⟩ := List.exists_cons_of_ne_nil hnonempty
  have hforall := receives_iff_isBindable h hcontext
  rw [hregistry, List.forall₂_cons_left_iff] at hforall
  obtain ⟨rendered, _, ⟨_, _, hpairs⟩, _, hrouters⟩ := hforall
  rw [hp, List.forall₂_cons_left_iff] at hpairs
  obtain ⟨pair, _, ⟨fields, arguments, hforwarded, hiff⟩, _, hzip⟩ := hpairs
  obtain ⟨model, hmodel, hname, rfl⟩ := hforwarded.exists_model
  obtain ⟨stated, hstated, hnot⟩ := hunbindable p (by simp [hp])
  cases hstated.symm.trans hforwarded.outcome_arguments
  have hrendered : rendered ∈ context.routers := by simp [hrouters]
  have hpair : pair ∈ rendered.endpoints.zip rendered.methods := by simp [hzip]
  have htext := htexts rendered hrendered pair.1 (List.of_mem_zip hpair).1
  exact ⟨compilation, context, h, hcontext, rendered, hrendered, pair, hpair, htext, model, hmodel,
    hname, fun hreceives ↦ hnot (hiff.mp hreceives)⟩

end ApiCompiler.Package
