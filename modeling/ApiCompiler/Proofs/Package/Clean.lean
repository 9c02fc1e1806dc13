import ApiCompiler.Proofs.Model.Clean
import ApiCompiler.Proofs.Package.Context
import ApiCompiler.Proofs.Registry.Consistency

/-!
# Clean contexts

What a package is written from holds names, annotations and forwarding expressions beside its free
texts. In the context of any registry and any table these are plain names and pieces of code of
their own, whatever the names of resources, operations, parameters and components are.
-/

namespace ApiCompiler.Package

open Text (IsPlain IsSnippet IsClosed)

variable {components : ComponentNames} {names : Named String} {scope : ModelScope}

/-! ## Component schemas -/

/-- An alias with a plain name for a piece of code of its own. -/
structure Alias.IsClean (a : Alias) : Prop where
  name : IsPlain a.name
  type : IsSnippet a.type.text

/-- A module of component schemas with clean classes and aliases. -/
structure ComponentModule.IsClean (components : ComponentModule) : Prop where
  models : ∀ model ∈ components.models, model.IsClean
  aliases : ∀ a ∈ components.aliases, a.IsClean

theorem classNames_holdsPlain (components : List String) : (classNames components).HoldsPlain :=
  fun _ hname ↦ (classNames_isUsable hname).isPlain

theorem visibleComponents_arePlain (hnames : names.HoldsPlain) (classes emitted : List String) :
    (visibleComponents names classes emitted).ArePlain := by
  intro inModel component expression h
  rw [visibleComponents] at h
  split at h
  · exact hnames.of_find? h
  · cases h

theorem qualifiedComponents_arePlain (hnames : names.HoldsPlain) :
    (qualifiedComponents names).ArePlain := by
  intro inModel component expression h
  obtain ⟨name, hname, rfl⟩ := Option.map_eq_some_iff.mp h
  have hmodule : IsPlain "schemas." := by decide
  exact hmodule.append (hnames.of_find? hname)

theorem isPlain_find?_getD (hnames : names.HoldsPlain) (component : String) :
    IsPlain ((names.find? component).getD "") := by
  cases hfound : names.find? component with
  | none => decide
  | some name => exact hnames.of_find? hfound

theorem hoistClasses_isClean (hnames : names.HoldsPlain) (classes : List String)
    (entries : SchemaTable) (h : scope.IsClean) :
    (hoistClasses names classes entries scope).IsClean := by
  induction entries generalizing scope with
  | nil => exact h
  | cons entry rest ih =>
    obtain ⟨component, schema⟩ := entry
    exact ih (Schema.hoistAs_isClean (visibleComponents_arePlain hnames classes [])
      (isPlain_find?_getD hnames component) schema h)

theorem renderAliases_isClean (hnames : names.HoldsPlain) (table : SchemaTable)
    (classes emitted order : List String) (h : scope.IsClean) :
    (∀ a ∈ (renderAliases table names classes emitted order scope).1, a.IsClean) ∧
      (renderAliases table names classes emitted order scope).2.IsClean := by
  induction order generalizing emitted scope with
  | nil => exact ⟨List.forall_mem_nil _, h⟩
  | cons component rest ih =>
    have hname := isPlain_find?_getD hnames component
    obtain ⟨htype, hscope⟩ := Schema.render_isClean
      (visibleComponents_arePlain hnames classes emitted) false _
      ((Named.find? table component).getD default) h
    obtain ⟨hrest, hfinal⟩ := ih (component :: emitted) hscope
    exact ⟨List.forall_mem_cons.mpr ⟨⟨hname, htype⟩, hrest⟩, hfinal⟩

theorem componentModule_isClean (table : SchemaTable) (hnames : names.HoldsPlain) :
    (componentModule table names).IsClean := by
  have hclasses := hoistClasses_isClean hnames (Named.names (classEntries table))
    (classEntries table) (ModelScope.isClean_empty (names.map Prod.snd))
  obtain ⟨haliases, hfinal⟩ := renderAliases_isClean hnames table
    (Named.names (classEntries table)) []
    (orderAliases table (aliasNames table) (aliasNames table)) hclasses
  exact ⟨hfinal, haliases⟩

/-! ## Forwarding expressions -/

variable {fields params : Named String} {route : Route}

theorem isPlain_fieldText {name : String} (h : IsPlain name) : IsPlain (fieldText name) := by
  have hinput : IsPlain "input." := by decide
  exact hinput.append h

/-- A mapping from wire names, which are literals, to fields. -/
theorem isSnippet_mapping {entries : List (String × String)}
    (h : ∀ entry ∈ entries, IsPlain entry.2) : IsSnippet (Passed.mapping entries).text := by
  have hopen : IsPlain "\x7b" := by decide
  have hcolon : IsPlain ": " := by decide
  have hclose : IsPlain "\x7d" := by decide
  have hentries : IsClosed (", ".intercalate (entries.map fun entry ↦
      Text.literal entry.1 ++ ": " ++ fieldText entry.2)) :=
    Text.isClosed_intercalate (List.forall_mem_map.mpr fun entry hentry ↦
      ((Text.isClosed_literal entry.1).append hcolon.isSnippet).append
        (isPlain_fieldText (h entry hentry)).isSnippet)
  exact (hopen.append_closed (by decide) hentries).append hclose.isSnippet

theorem isSnippet_queryEntries (hfields : fields.HoldsPlain) (route : Route) :
    IsSnippet (Passed.mapping (queryEntries fields route)).text := by
  refine isSnippet_mapping fun entry hentry ↦ ?_
  obtain ⟨query, -, hquery⟩ := List.mem_filterMap.mp hentry
  split at hquery
  · cases hquery
  · obtain ⟨field, hfield, rfl⟩ := Option.map_eq_some_iff.mp hquery
    exact hfields.of_find? hfield

theorem isSnippet_argument {keyword : Option String} {value : Passed}
    (hkeyword : ∀ name ∈ keyword, IsPlain name) (hvalue : IsSnippet value.text) :
    IsSnippet (PassedArgument.mk keyword value).text := by
  cases keyword with
  | none => simpa [PassedArgument.text] using hvalue
  | some name =>
    have hequals : IsPlain "=" := by decide
    exact ((hkeyword name rfl).append hequals).isSnippet.append hvalue

/-- The arguments of a forwarding expression are pieces of code of their own, whatever the call
lists. -/
theorem isSnippet_of_passArguments (hfields : fields.HoldsPlain) (hparams : params.HoldsPlain)
    {keyword : Bool} {arguments : List Argument} {passed : List PassedArgument}
    (h : (passArguments fields params route keyword arguments).outcome = .ok passed) :
    ∀ argument ∈ passed, IsSnippet argument.text := by
  induction arguments generalizing keyword passed with
  | nil =>
    cases h
    exact List.forall_mem_nil _
  | cons a rest ih =>
    rw [passArguments] at h
    split at h
    · obtain ⟨field, hfield, h⟩ := Report.outcome_bind_eq_ok.mp h
      have hvalue := (isPlain_fieldText (hfields.of_find? (find?_of_require hfield))).isSnippet
      -- after a keyword the argument is bound by name
      dsimp only at h
      split at h
      · obtain ⟨name, hname, h⟩ := Report.outcome_bind_eq_ok.mp h
        obtain ⟨others, hothers, h⟩ := Report.outcome_bind_eq_ok.mp h
        obtain ⟨parameter, hparameter, hname⟩ := Report.outcome_bind_eq_ok.mp hname
        cases hname
        cases h
        have hplain : ∀ n ∈ some parameter, IsPlain n := by
          rintro n ⟨⟩
          exact hparams.of_find? (find?_of_require hparameter)
        exact List.forall_mem_cons.mpr ⟨isSnippet_argument hplain hvalue, ih hothers⟩
      · obtain ⟨name, hname, h⟩ := Report.outcome_bind_eq_ok.mp h
        obtain ⟨others, hothers, h⟩ := Report.outcome_bind_eq_ok.mp h
        cases hname
        cases h
        have hposition : ∀ n ∈ (none : Option String), IsPlain n := by simp
        exact List.forall_mem_cons.mpr ⟨isSnippet_argument hposition hvalue, ih hothers⟩
    · obtain ⟨others, hothers, h⟩ := Report.outcome_bind_eq_ok.mp h
      cases h
      have hquery : ∀ name ∈ some "query", IsPlain name := by
        rintro name ⟨⟩
        decide
      exact List.forall_mem_cons.mpr
        ⟨isSnippet_argument hquery (isSnippet_queryEntries hfields route), ih hothers⟩
    · obtain ⟨field, hfield, h⟩ := Report.outcome_bind_eq_ok.mp h
      obtain ⟨others, hothers, h⟩ := Report.outcome_bind_eq_ok.mp h
      cases h
      have hdata : ∀ name ∈ some "data", IsPlain name := by
        rintro name ⟨⟩
        decide
      have hvalue := (isPlain_fieldText (hfields.of_find? (find?_of_require hfield))).isSnippet
      exact List.forall_mem_cons.mpr ⟨isSnippet_argument hdata hvalue, ih hothers⟩

theorem ForwardingCall.isSnippet_text {call : ForwardingCall} (hresource : IsPlain call.resource)
    (hmethod : IsPlain call.method) (harguments : ∀ a ∈ call.arguments, IsSnippet a.text) :
    IsSnippet call.text := by
  have hclient : IsPlain "ctx.api." := by decide
  have hdot : IsPlain "." := by decide
  have hopen : IsPlain "(" := by decide
  have hclose : IsPlain ")" := by decide
  have htexts : IsClosed (", ".intercalate (call.arguments.map PassedArgument.text)) :=
    Text.isClosed_intercalate (List.forall_mem_map.mpr fun a ha ↦ (harguments a ha).isClosed)
  have hcallee := ((hclient.append hresource).append hdot).append hmethod
  exact (hcallee.isSnippet.append_closed hopen (by decide) htexts).append hclose.isSnippet

/-! ## Routers -/

/-- A procedure written with plain names and pieces of code of their own. -/
structure Endpoint.IsClean (e : Endpoint) : Prop where
  function : IsPlain e.function
  inputModel : IsPlain e.inputModel
  response : IsSnippet e.response.text
  call : IsSnippet e.call.text

/-- A client method with plain names. -/
structure ClientMethod.IsClean (method : ClientMethod) : Prop where
  function : IsPlain method.function
  params : method.params.HoldsPlain

/-- A router written with plain names, clean classes and clean procedures. -/
structure RouterContext.IsClean (router : RouterContext) : Prop where
  nspace : IsPlain router.nspace
  models : ∀ model ∈ router.models, model.IsClean
  endpoints : ∀ e ∈ router.endpoints, e.IsClean
  methods : ∀ method ∈ router.methods, method.IsClean

/-- A context that is clean apart from its free texts. -/
structure Context.IsClean (context : Context) : Prop where
  apiName : Text.isIdentifier context.apiName = true
  components : context.components.IsClean
  routers : ∀ router ∈ context.routers, router.IsClean

theorem hoistInputs_isClean (hcomponents : components.ArePlain) (schemas : List (String × Schema))
    (h : scope.IsClean) :
    (hoistInputs components schemas scope).1.HoldsPlain ∧
      (hoistInputs components schemas scope).2.IsClean := by
  induction schemas generalizing scope with
  | nil => exact ⟨List.forall_mem_nil _, h⟩
  | cons entry rest ih =>
    obtain ⟨name, schema⟩ := entry
    obtain ⟨hclass, hscope⟩ := Schema.hoist_isClean hcomponents schema name h
    obtain ⟨hrest, hfinal⟩ := ih hscope
    rw [hoistInputs_cons]
    exact ⟨List.forall_mem_cons.mpr ⟨hclass, hrest⟩, hfinal⟩

theorem fieldsOf_holdsPlain (h : scope.IsClean) (className : String) :
    (fieldsOf scope className).HoldsPlain := by
  rw [fieldsOf]
  cases hfound : scope.models.find? fun m ↦ m.name == className with
  | none => exact List.forall_mem_nil _
  | some model => exact (h model (List.mem_of_find?_eq_some hfound)).names

theorem clientParams_holdsPlain (route : Route) : (clientParams route).HoldsPlain :=
  fun _ hparameter ↦ (clientParams_isUsable hparameter).isPlain

variable {inputs : Named String} {p : Procedure} {router : Router}

/-- The namespaces and functions that a registry derives are plain, in the calls as well. -/
structure IsPlainProcedure (p : Procedure) : Prop where
  function : IsPlain p.function
  call : ∀ call ∈ p.call, IsPlain call.resourceNamespace ∧ IsPlain call.methodName

theorem endpointOf_isClean (hscope : scope.IsClean) (hinputs : inputs.HoldsPlain)
    {response : TypeExpr} (hresponse : IsSnippet response.text) (hp : IsPlainProcedure p)
    {rendered : Endpoint × ClientMethod}
    (h : (endpointOf scope inputs response p).outcome = .ok rendered) :
    rendered.1.IsClean ∧ rendered.2.IsClean := by
  obtain ⟨inputModel, hinput, h⟩ := Report.outcome_bind_eq_ok.mp h
  cases hcall : p.call with
  | none =>
    rw [hcall] at h
    cases h
  | some call =>
    rw [hcall] at h
    obtain ⟨bound, hbound, h⟩ := Report.outcome_bind_eq_ok.mp h
    cases hbound
    obtain ⟨forwarding, hforwarding, h⟩ := Report.outcome_bind_eq_ok.mp h
    obtain ⟨arguments, harguments, hforwarding⟩ := Report.outcome_bind_eq_ok.mp hforwarding
    cases hforwarding
    cases h
    obtain ⟨hresource, hmethod⟩ := hp.call call hcall
    have hpassed := isSnippet_of_passArguments (fieldsOf_holdsPlain hscope inputModel)
      (clientParams_holdsPlain p.route) harguments
    refine ⟨⟨hp.function, ?_, hresponse, ?_⟩, hp.function, clientParams_holdsPlain p.route⟩
    · exact hinputs.of_find? (find?_of_require hinput)
    · exact ForwardingCall.isSnippet_text hresource hmethod hpassed

theorem endpointsOf_isClean (hcomponents : components.ArePlain) (hinputs : inputs.HoldsPlain)
    {procedures : List Procedure} (hprocedures : ∀ p ∈ procedures, IsPlainProcedure p)
    (hscope : scope.IsClean) {rendered : List (Endpoint × ClientMethod)} {final : ModelScope}
    (h : (endpointsOf components inputs procedures scope).outcome = .ok (rendered, final)) :
    (∀ pair ∈ rendered, pair.1.IsClean ∧ pair.2.IsClean) ∧ final.IsClean := by
  induction procedures generalizing scope rendered final with
  | nil =>
    cases h
    exact ⟨List.forall_mem_nil _, hscope⟩
  | cons p rest ih =>
    obtain ⟨hp, hrest⟩ := List.forall_mem_cons.mp hprocedures
    obtain ⟨hresponse, hafter⟩ := Schema.render_isClean hcomponents false
      (Naming.pascal p.route.name ++ "Response") p.route.response hscope
    rw [endpointsOf_cons] at h
    obtain ⟨endpoint, hendpoint, h⟩ := Report.outcome_bind_eq_ok.mp h
    obtain ⟨⟨others, final⟩, hothers, h⟩ := Report.outcome_bind_eq_ok.mp h
    cases h
    obtain ⟨hclean, hfinal⟩ := ih hrest hafter hothers
    have hfirst := endpointOf_isClean hafter hinputs hresponse hp hendpoint
    exact ⟨List.forall_mem_cons.mpr ⟨hfirst, hclean⟩, hfinal⟩

theorem isPlainProcedure_of_isConsistent (h : router.IsConsistent) (hnspace : IsPlain router.nspace)
    (hp : p ∈ router.procedures) : IsPlainProcedure p := by
  have hfunction := (h.function_isUsable p hp).isPlain
  refine ⟨hfunction, fun call hcall ↦ ?_⟩
  obtain ⟨hresource, hmethod⟩ := h.call_eq p hp call hcall
  exact ⟨hresource ▸ hnspace, hmethod ▸ hfunction⟩

theorem routerContext_isClean (hnames : names.HoldsPlain) (hrouter : router.IsConsistent)
    (hnspace : IsPlain router.nspace) {context : RouterContext}
    (h : (routerContext names router).outcome = .ok context) : context.IsClean := by
  have hcomponents := qualifiedComponents_arePlain hnames
  obtain ⟨hinputs, hscope⟩ := hoistInputs_isClean hcomponents router.schemas
    (ModelScope.isClean_empty routerModuleNames)
  obtain ⟨⟨rendered, final⟩, hrendered, h⟩ := Report.outcome_bind_eq_ok.mp h
  cases h
  obtain ⟨hclean, hfinal⟩ := endpointsOf_isClean hcomponents hinputs
    (fun p ↦ isPlainProcedure_of_isConsistent hrouter hnspace) hscope hrendered
  exact ⟨hnspace, hfinal, List.forall_mem_map.mpr fun pair hpair ↦ (hclean pair hpair).1,
    List.forall_mem_map.mpr fun pair hpair ↦ (hclean pair hpair).2⟩

theorem routerContexts_isClean (hnames : names.HoldsPlain) {routers : List Router}
    (hrouters : ∀ router ∈ routers, router.IsConsistent ∧ IsPlain router.nspace)
    {contexts : List RouterContext} (h : (routerContexts names routers).outcome = .ok contexts) :
    ∀ context ∈ contexts, context.IsClean := by
  induction routers generalizing contexts with
  | nil =>
    cases h
    exact List.forall_mem_nil _
  | cons router rest ih =>
    obtain ⟨⟨hrouter, hnspace⟩, hrest⟩ := List.forall_mem_cons.mp hrouters
    obtain ⟨first, hfirst, h⟩ := Report.outcome_bind_eq_ok.mp h
    obtain ⟨others, hothers, h⟩ := Report.outcome_bind_eq_ok.mp h
    cases h
    exact List.forall_mem_cons.mpr
      ⟨routerContext_isClean hnames hrouter hnspace hfirst, ih hrest hothers⟩

theorem isIdentifier_apiClassName (apiName : String) :
    Text.isIdentifier (apiClassName apiName) = true :=
  have hfallback : ∀ c ∈ "Api".toList, c.isAlphanum = true := List.all_eq_true.mp (by decide)
  (ModelScope.className_isUsable apiName hfallback).isIdentifier

/-- The context of a consistent registry and any table is clean. -/
theorem isClean_of_isConsistent {registry : Registry} {table : SchemaTable}
    {apiName sourceUrl title : String} {context : Context} (hconsistent : registry.IsConsistent)
    (hcontext : (contextOf ⟨registry, table⟩ apiName sourceUrl title).outcome = .ok context) :
    context.IsClean := by
  have hnames := classNames_holdsPlain (Named.names table)
  have hrouters : ∀ router ∈ registry, router.IsConsistent ∧ IsPlain router.nspace :=
    fun router hrouter ↦ ⟨hconsistent.router_isConsistent router hrouter,
      (hconsistent.nspace_isUsable router hrouter).isPlain⟩
  obtain ⟨-, routers, hcontexts, rfl⟩ := exists_routerContexts_of_contextOf hcontext
  exact ⟨isIdentifier_apiClassName apiName, componentModule_isClean table hnames,
    routerContexts_isClean hnames hrouters hcontexts⟩

/-- The context of any registry and any table is clean. -/
theorem isClean_of_contextOf {steps : List (Route × Option Call)} {registry : Registry}
    {table : SchemaTable} {apiName sourceUrl title : String} {context : Context}
    (hregistry : (Registry.addAll [] steps).outcome = .ok registry)
    (hcontext : (contextOf ⟨registry, table⟩ apiName sourceUrl title).outcome = .ok context) :
    context.IsClean := by
  obtain ⟨final, hfinal, hconsistent⟩ := Registry.isConsistent_nil.addAll steps
  obtain rfl : registry = final := Except.ok.inj (hregistry.symm.trans hfinal)
  exact isClean_of_isConsistent hconsistent hcontext

end ApiCompiler.Package
