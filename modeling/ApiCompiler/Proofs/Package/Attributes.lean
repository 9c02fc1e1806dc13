import ApiCompiler.Proofs.Naming.Pascal
import ApiCompiler.Proofs.Package.Operations

/-!
# Attributes of the client

The client has one attribute for each resource, an instance of the class of the resource. Classes
are named by the capital spelling of the attribute, which two attributes may share; a name then
means the class that is defined last. Every attribute has the methods of its own resource, and every
call reaches the method of its own procedure, exactly when no two classes share a name and none has
the name of the client.
-/

namespace ApiCompiler.Package

open Document.Sample (object)

namespace Context

/-- The router whose methods the class of a name has once the module of the client is loaded: the
last definition counts, and the client itself is defined behind the resources. -/
def classNamed? (context : Context) (name : String) : Option RouterContext :=
  if context.apiName = name then none
  else context.routers.reverse.find? fun router ↦ router.className == name

/-- The router whose methods an attribute of the client has; the last assignment to it counts. -/
def attribute? (context : Context) (nspace : String) : Option RouterContext :=
  (context.routers.reverse.find? fun router ↦ router.nspace == nspace).bind fun router ↦
    context.classNamed? router.className

/-- The client method that a call reaches. -/
def callee? (context : Context) (call : ForwardingCall) : Option ClientMethod :=
  (context.attribute? call.resource).bind fun router ↦
    router.methods.reverse.find? fun method ↦ method.function == call.method

end Context

/-- A router module whose calls name its own attribute and its own client methods, of which there is
at least one. All methods stand for paths of the resource. -/
structure RouterContext.IsServed (router : RouterContext) : Prop where
  zip_ne_nil : router.endpoints.zip router.methods ≠ []
  call_eq : ∀ pair ∈ router.endpoints.zip router.methods,
    pair.1.call.resource = router.nspace ∧ pair.1.call.method = pair.2.function
  functions_nodup : (router.methods.map ClientMethod.function).Nodup
  resource?_path : ∀ method ∈ router.methods,
    PathTemplate.resource? method.path = some router.name

/-- A context whose routers are served, and kept apart by resource and by attribute. -/
structure Context.IsServed (context : Context) : Prop where
  names_nodup : (context.routers.map RouterContext.name).Nodup
  nspaces_nodup : (context.routers.map RouterContext.nspace).Nodup
  isSnake : ∀ router ∈ context.routers, ∀ c ∈ router.nspace.toList, Naming.IsSnakeChar c
  router_isServed : ∀ router ∈ context.routers, router.IsServed

/-- The classes of a client are kept apart from each other and from the client itself. -/
def Context.HasOwnClasses (context : Context) : Prop :=
  (context.routers.map RouterContext.className).Nodup ∧
    context.apiName ∉ context.routers.map RouterContext.className

/-! ## Packages of compiled documents -/

section Compiled

variable {document : Value} {overrides : Overrides} {compilation : Compilation}
  {apiName sourceUrl title : String} {context : Context}

/-- A written router is served when its router is consistent, is not empty and has paths of its
resource. -/
theorem isServed_of_isWrittenRouter {router : Router} {rendered : RouterContext}
    (hconsistent : router.IsConsistent) (hprocedures : router.procedures ≠ [])
    (hpaths : ∀ p ∈ router.procedures, PathTemplate.resource? p.route.path = some router.name)
    (hof : rendered.IsOf router) (hwritten : IsWrittenRouter router rendered) :
    rendered.IsServed where
  zip_ne_nil := by
    intro hnil
    have hlength := hwritten.forall_procedure.length_eq
    rw [hnil, List.length_nil, List.length_eq_zero_iff] at hlength
    exact hprocedures hlength
  call_eq pair hpair := by
    obtain ⟨p, hp, model, _, hprocedure, _⟩ := exists_mem_of_forall₂ hwritten.forall_procedure hpair
    obtain ⟨call, hcall, hforwarding⟩ := hprocedure.call_eq
    have hplace := hconsistent.call_eq p hp call hcall
    rw [hforwarding, hprocedure.function_eq, hwritten.nspace_eq]
    exact hplace
  functions_nodup := by
    rw [map_eq_map_of_forall₂ (f := Procedure.function) (fun _ _ hm ↦ hm.function_eq) hof.methods]
    exact hconsistent.functions_nodup
  resource?_path method hmethod := by
    obtain ⟨p, hp, hm⟩ := exists_mem_of_forall₂ hof.methods hmethod
    rw [hm.path_eq, hof.name_eq]
    exact hpaths p hp

theorem isServed_of_contextOf
    (h : (Compilation.ofDocument document overrides).outcome = .ok compilation)
    (hcontext : (contextOf compilation apiName sourceUrl title).outcome = .ok context) :
    context.IsServed := by
  have hconsistent := Compilation.isConsistent_registry h
  have hlists := Compilation.lists_operations h
  have hof := forall₂_isOf_of_contextOf hcontext
  have hrouters := forall₂_routerContext_of_contextOf hcontext
  have hnames : context.routers.map RouterContext.name = compilation.registry.map Router.name :=
    map_eq_map_of_forall₂ (fun _ _ hrouter ↦ hrouter.name_eq) hof
  have hnspaces :
      context.routers.map RouterContext.nspace = compilation.registry.map Router.nspace :=
    map_eq_map_of_forall₂ (fun _ _ hrouter ↦ hrouter.nspace_eq) hof
  constructor
  · exact hnames ▸ hconsistent.names_nodup
  · exact hnspaces ▸ hconsistent.nspaces_nodup
  · intro rendered hrendered
    obtain ⟨router, hrouter, hofRouter⟩ := exists_mem_of_forall₂ hof hrendered
    rw [hofRouter.nspace_eq]
    exact Compilation.isSnakeChar_of_mem_nspace h hrouter
  · intro rendered hrendered
    obtain ⟨router, hrouter, houtcome⟩ := exists_mem_of_forall₂ hrouters hrendered
    have hkept : ∀ p ∈ router.procedures, ∀ key, ¬ router.IsLost p key :=
      fun p hp key ↦ not_isLost_of_contextOf h hcontext hrouter hp key
    obtain ⟨written, hwritten, hisWritten⟩ := exists_routerContext (isBound_of_mem h hrouter) hkept
    cases hwritten.symm.trans houtcome
    obtain ⟨hprocedures, hpaths⟩ := hlists.procedures_of_mem hconsistent.names_nodup hrouter
    exact isServed_of_isWrittenRouter (hconsistent.router_isConsistent router hrouter) hprocedures
      hpaths (isOf_of_routerContext houtcome) hisWritten

end Compiled

/-! ## What names of classes mean -/

theorem mem_routers_of_attribute? {context : Context} {nspace : String} {router : RouterContext}
    (h : context.attribute? nspace = some router) : router ∈ context.routers := by
  rw [Context.attribute?, Option.bind_eq_some_iff] at h
  obtain ⟨named, _, hclass⟩ := h
  unfold Context.classNamed? at hclass
  split at hclass
  · cases hclass
  · exact List.mem_reverse.mp (List.mem_of_find?_eq_some hclass)

section Served

variable {context : Context} (h : context.IsServed)

include h

theorem className_eq_iff {router other : RouterContext} (hrouter : router ∈ context.routers)
    (hother : other ∈ context.routers) :
    router.className = other.className ↔
      Naming.letterMarked router.nspace = Naming.letterMarked other.nspace := by
  rw [← Naming.pascal_eq_iff (h.isSnake router hrouter) (h.isSnake other hother),
    RouterContext.className, RouterContext.className, ← String.toList_inj, ← String.toList_inj]
  simp

/-- Classes are kept apart exactly when the attributes agree in no marked spelling. -/
theorem classNames_nodup_iff :
    (context.routers.map RouterContext.className).Nodup ↔
      (context.routers.map fun router ↦ Naming.letterMarked router.nspace).Nodup := by
  have hnodup := List.Nodup.of_map _ h.names_nodup
  rw [List.nodup_map_iff_inj_on hnodup, List.nodup_map_iff_inj_on hnodup]
  refine forall₂_congr fun router hrouter ↦ forall₂_congr fun other hother ↦ ?_
  rw [className_eq_iff h hrouter hother]

/-- An attribute has the methods of the class that its resource's class name means. -/
theorem attribute?_eq {router : RouterContext} (hrouter : router ∈ context.routers) :
    context.attribute? router.nspace = context.classNamed? router.className := by
  rw [Context.attribute?, find?_reverse_key_of_mem h.nspaces_nodup hrouter]
  rfl

/-- Every attribute has the methods of its own resource exactly when classes are kept apart from
each other and from the client. -/
theorem attribute?_eq_self_iff :
    (∀ router ∈ context.routers, context.attribute? router.nspace = some router) ↔
      context.HasOwnClasses := by
  constructor
  · intro hself
    have hclass : ∀ router ∈ context.routers,
        context.classNamed? router.className = some router :=
      fun router hrouter ↦ attribute?_eq h hrouter ▸ hself router hrouter
    constructor
    · rw [List.nodup_map_iff_inj_on (List.Nodup.of_map _ h.names_nodup)]
      intro router hrouter other hother hname
      have hfirst := hclass router hrouter
      rw [hname, hclass other hother, Option.some.injEq] at hfirst
      exact hfirst.symm
    · intro hclient
      obtain ⟨router, hrouter, hname⟩ := List.mem_map.mp hclient
      have hfound := hclass router hrouter
      rw [Context.classNamed?, if_pos hname.symm] at hfound
      cases hfound
  · rintro ⟨hnodup, hclient⟩ router hrouter
    have hne : context.apiName ≠ router.className :=
      fun heq ↦ hclient (heq ▸ List.mem_map_of_mem hrouter)
    rw [attribute?_eq h hrouter, Context.classNamed?, if_neg hne,
      find?_reverse_key_of_mem hnodup hrouter]

/-- Every call reaches the method of its own procedure exactly when classes are kept apart from each
other and from the client. -/
theorem callee?_eq_self_iff :
    (∀ router ∈ context.routers, ∀ pair ∈ router.endpoints.zip router.methods,
      context.callee? pair.1.call = some pair.2) ↔ context.HasOwnClasses := by
  rw [← attribute?_eq_self_iff h]
  constructor
  · intro hcalls router hrouter
    have hserved := h.router_isServed router hrouter
    obtain ⟨pair, hpair⟩ := List.exists_mem_of_ne_nil _ hserved.zip_ne_nil
    have hcallee := hcalls router hrouter pair hpair
    rw [Context.callee?, (hserved.call_eq pair hpair).1, Option.bind_eq_some_iff] at hcallee
    obtain ⟨other, hattribute, hmethod⟩ := hcallee
    have hother := mem_routers_of_attribute? hattribute
    -- the method that is reached has a path of the resource whose class was taken
    have hmine := hserved.resource?_path pair.2 (List.of_mem_zip hpair).2
    have htheirs := (h.router_isServed other hother).resource?_path pair.2
      (List.mem_reverse.mp (List.mem_of_find?_eq_some hmethod))
    rw [hmine, Option.some.injEq] at htheirs
    rw [hattribute, List.inj_on_of_nodup_map h.names_nodup hrouter hother htheirs]
  · intro hself router hrouter pair hpair
    have hserved := h.router_isServed router hrouter
    obtain ⟨hresource, hmethod⟩ := hserved.call_eq pair hpair
    rw [Context.callee?, hresource, hself router hrouter, hmethod]
    exact find?_reverse_key_of_mem hserved.functions_nodup (List.of_mem_zip hpair).2

end Served

/-- In the client of a compiled document two classes share a name exactly when two attributes have
the same marked spelling. Every attribute has the methods of its own resource, and every call
reaches the method of its own procedure, exactly when the classes are kept apart from each other and
from the client. -/
theorem reachesOwnMethods_iff_hasOwnClasses {document : Value} {overrides : Overrides}
    {compilation : Compilation} {apiName sourceUrl title : String} {context : Context}
    (h : (Compilation.ofDocument document overrides).outcome = .ok compilation)
    (hcontext : (contextOf compilation apiName sourceUrl title).outcome = .ok context) :
    ((context.routers.map RouterContext.className).Nodup ↔
      (context.routers.map fun router ↦ Naming.letterMarked router.nspace).Nodup) ∧
    ((∀ router ∈ context.routers, context.attribute? router.nspace = some router) ↔
      context.HasOwnClasses) ∧
    ((∀ router ∈ context.routers, ∀ pair ∈ router.endpoints.zip router.methods,
      context.callee? pair.1.call = some pair.2) ↔ context.HasOwnClasses) := by
  have hserved := isServed_of_contextOf h hcontext
  exact ⟨classNames_nodup_iff hserved, attribute?_eq_self_iff hserved, callee?_eq_self_iff hserved⟩

/-- Two resources that differ in an underscore before a digit. -/
def twoVersionsDocument : Value :=
  let item := object [("get", object [])]
  object [("paths", object [("/v1/a", item), ("/v_1/a", item)])]

/-- Both resources have the same class, so not every call reaches the method of its procedure. -/
theorem twoVersionsDocument_sharesClass :
    ∃ compilation context,
      (Compilation.ofDocument twoVersionsDocument []).outcome = .ok compilation ∧
      (contextOf compilation "Api" "" "").outcome = .ok context ∧
      context.routers.map RouterContext.nspace = ["v1", "v_1"] ∧
      ¬ (context.routers.map RouterContext.className).Nodup ∧
      ¬ ∀ router ∈ context.routers, ∀ pair ∈ router.endpoints.zip router.methods,
        context.callee? pair.1.call = some pair.2 := by
  obtain ⟨compilation, h, context, hcontext, hnspaces⟩ : ∃ compilation,
      (Compilation.ofDocument twoVersionsDocument []).outcome = .ok compilation ∧
      ∃ context, (contextOf compilation "Api" "" "").outcome = .ok context ∧
        context.routers.map RouterContext.nspace = ["v1", "v_1"] := by
    decide +kernel
  obtain ⟨hclasses, _, hcalls⟩ := reachesOwnMethods_iff_hasOwnClasses h hcontext
  have hshared : ¬ (context.routers.map RouterContext.className).Nodup := by
    have hmarked : context.routers.map (fun router ↦ Naming.letterMarked router.nspace) =
        ["v1", "v_1"].map Naming.letterMarked := by
      rw [← hnspaces, List.map_map]
      rfl
    rw [hclasses, hmarked]
    decide
  exact ⟨compilation, context, h, hcontext, hnspaces, hshared,
    fun hown ↦ hshared (hcalls.mp hown).1⟩

end ApiCompiler.Package
