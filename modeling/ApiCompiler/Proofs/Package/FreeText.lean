import ApiCompiler.Proofs.Package.Context
import ApiCompiler.Proofs.Package.Template

/-!
# Free texts of a package

The title, the address of the source and the descriptions of operations are free texts: they decide
neither whether a package can be written nor which files it has, and no more of a file than the
contents of its literals. So none of them can end the literal it stands in.
-/

namespace ApiCompiler

/-! ## Without free texts -/

/-- A route without its description. -/
def Route.bare (route : Route) : Route :=
  { route with description := "" }

/-- A procedure without its description. -/
def Procedure.bare (p : Procedure) : Procedure :=
  { p with route := p.route.bare }

/-- A router without descriptions. -/
def Router.bare (router : Router) : Router :=
  { router with procedures := router.procedures.map Procedure.bare }

namespace Package

/-- A procedure of a router module without its description. -/
def Endpoint.bare (e : Endpoint) : Endpoint :=
  { e with description := "" }

/-- A client method without its description. -/
def ClientMethod.bare (method : ClientMethod) : ClientMethod :=
  { method with description := "" }

/-- A router module without descriptions. -/
def RouterContext.bare (router : RouterContext) : RouterContext :=
  { router with
    endpoints := router.endpoints.map Endpoint.bare
    methods := router.methods.map ClientMethod.bare }

/-- A context without its free texts. -/
def Context.bare (context : Context) : Context :=
  { context with title := "", sourceUrl := "", routers := context.routers.map RouterContext.bare }

/-! ## Contexts -/

variable {names inputs : Named String} {components : ComponentNames}

theorem passArguments_bare (fields params : Named String) (route : Route) (keyword : Bool)
    (arguments : List Argument) :
    passArguments fields params route.bare keyword arguments =
      passArguments fields params route keyword arguments := by
  induction arguments generalizing keyword with
  | nil => rfl
  | cons a rest ih =>
    simp only [passArguments, ih]
    rfl

theorem outcome_endpointOf_bare (scope : ModelScope) (response : TypeExpr) (p : Procedure) :
    (endpointOf scope inputs response p.bare).outcome =
      (endpointOf scope inputs response p).outcome.map
        (Prod.map Endpoint.bare ClientMethod.bare) := by
  have hforwarding (fields : Named String) (call : Call) :
      forwardingCall fields p.bare.route call = forwardingCall fields p.route call := by
    simp only [forwardingCall, Procedure.bare, passArguments_bare]
    rfl
  have hcall : p.bare.call = p.call := rfl
  unfold endpointOf
  rw [hcall]
  refine Report.outcome_bind_map_right fun inputModel ↦ ?_
  cases p.call with
  | none => rfl
  | some call =>
    refine Report.outcome_bind_map_right fun call ↦ ?_
    dsimp only
    rw [hforwarding]
    exact Report.outcome_bind_map_right fun forwarding ↦ rfl

theorem outcome_endpointsOf_bare (procedures : List Procedure) (scope : ModelScope) :
    (endpointsOf components inputs (procedures.map Procedure.bare) scope).outcome =
      (endpointsOf components inputs procedures scope).outcome.map
        (Prod.map (List.map (Prod.map Endpoint.bare ClientMethod.bare)) id) := by
  induction procedures generalizing scope with
  | nil => rfl
  | cons p rest ih =>
    have hafter : afterResponse components p.bare scope = afterResponse components p scope := rfl
    rw [List.map_cons, endpointsOf_cons, endpointsOf_cons, hafter]
    refine Report.outcome_bind_map (outcome_endpointOf_bare _ _ p) fun endpoint ↦ ?_
    exact Report.outcome_bind_map (ih _) fun others ↦ rfl

theorem outcome_routerContext_bare (router : Router) :
    (routerContext names router.bare).outcome =
      (routerContext names router).outcome.map RouterContext.bare := by
  rw [routerContext_eq, routerContext_eq]
  refine Report.outcome_bind_map (outcome_endpointsOf_bare _ _) fun ⟨rendered, final⟩ ↦ ?_
  rw [Report.outcome_pure, Report.outcome_pure, Except.map]
  simp [RouterContext.bare, Router.bare]

theorem outcome_routerContexts_bare (routers : List Router) :
    (routerContexts names (routers.map Router.bare)).outcome =
      (routerContexts names routers).outcome.map (List.map RouterContext.bare) := by
  induction routers with
  | nil => rfl
  | cons router rest ih =>
    refine Report.outcome_bind_map (outcome_routerContext_bare router) fun context ↦ ?_
    exact Report.outcome_bind_map ih fun others ↦ rfl

variable {registry other : Registry} {table : SchemaTable} {context : Context}
  {apiName sourceUrl title : String}

theorem isRefused_bare (registry : Registry) (table : SchemaTable) :
    isRefused ⟨registry.map Router.bare, table⟩ = isRefused ⟨registry, table⟩ := by
  have hschemas : schemasOf ⟨registry.map Router.bare, table⟩ = schemasOf ⟨registry, table⟩ := by
    simp only [schemasOf, List.flatMap_map, Router.bare, List.map_map]
    rfl
  rw [isRefused, isRefused, isWritable, isWritable, hschemas]

/-- With other free texts there is a context too, and it differs in its free texts only. -/
theorem exists_contextOf_of_bare_eq (hother : other.map Router.bare = registry.map Router.bare)
    (h : (contextOf ⟨registry, table⟩ apiName sourceUrl title).outcome = .ok context)
    (otherUrl otherTitle : String) :
    ∃ otherContext, (contextOf ⟨other, table⟩ apiName otherUrl otherTitle).outcome =
      .ok otherContext ∧ otherContext.bare = context.bare := by
  obtain ⟨hrefused, contexts, hcontexts, rfl⟩ := exists_routerContexts_of_contextOf h
  have hotherRefused : isRefused ⟨other, table⟩ = false := by
    rw [← isRefused_bare, hother, isRefused_bare, hrefused]
  have hrouters : (routerContexts (classNames (Named.names table)) other).outcome.map
      (List.map RouterContext.bare) = .ok (contexts.map RouterContext.bare) := by
    rw [← outcome_routerContexts_bare, hother, outcome_routerContexts_bare, hcontexts]
    rfl
  rw [outcome_contextOf hotherRefused]
  cases hothers : (routerContexts (classNames (Named.names table)) other).outcome with
  | error failure =>
    rw [hothers] at hrouters
    cases hrouters
  | ok others =>
    rw [hothers] at hrouters
    have hbare : others.map RouterContext.bare = contexts.map RouterContext.bare :=
      Except.ok.inj hrouters
    refine ⟨_, rfl, ?_⟩
    rw [Context.bare, Context.bare, hbare]

/-! ## Files -/

/-- A file with what its literals hold blanked out. -/
def blankFile (file : String × String) : String × String :=
  (file.1, Text.blankLiterals file.2)

/-- A file of a package without its free texts. -/
def Artifact.blank (a : Artifact) : Artifact :=
  ⟨a.path, a.source.blank⟩

theorem blank_append (source rest : Source) :
    Source.blank (source ++ rest) = source.blank ++ rest.blank :=
  List.map_append

theorem blank_flatMap {α : Type} (members : List α) (f : α → Source) :
    Source.blank (members.flatMap f) = members.flatMap fun a ↦ (f a).blank :=
  List.map_flatMap

theorem blank_clientSource (context : Context) :
    (clientSource context.bare).blank = (clientSource context).blank := by
  have hresource (router : RouterContext) : (resourceSource context.apiName router.bare).blank =
      (resourceSource context.apiName router).blank := by
    simp only [resourceSource, blank_append, blank_flatMap, RouterContext.bare, List.flatMap_map]
    rfl
  simp only [clientSource, blank_append, blank_flatMap, Context.bare, List.flatMap_map, hresource,
    List.map_map]
  rfl

theorem blank_packageSource (context : Context) :
    (packageSource context.bare).blank = (packageSource context).blank := by
  have hcount : context.bare.procedureCount = context.procedureCount := by
    simp [Context.procedureCount, Context.bare, RouterContext.bare, List.flatMap_map,
      List.length_flatMap]
  have hlength : context.bare.routers.length = context.routers.length := List.length_map _
  simp only [packageSource, blank_append, hcount, hlength]
  rfl

theorem blank_appSource (context : Context) :
    (appSource context.bare).blank = (appSource context).blank := by
  simp only [appSource, blank_append, blank_flatMap, Context.bare, List.flatMap_map, List.map_map]
  rfl

theorem blank_routerSource (context : Context) (router : RouterContext) :
    (routerSource context.bare router.bare).blank = (routerSource context router).blank := by
  simp only [routerSource, blank_append, blank_flatMap, RouterContext.bare, List.flatMap_map]
  rfl

/-- The files of a package differ in what the free texts have written only. -/
theorem artifacts_bare (context : Context) :
    (artifacts context.bare).map Artifact.blank = (artifacts context).map Artifact.blank := by
  have hcommon : (commonArtifacts context.bare).map Artifact.blank =
      (commonArtifacts context).map Artifact.blank := by
    simp only [commonArtifacts, List.map_cons, List.map_nil, Artifact.blank, blank_packageSource,
      blank_clientSource, blank_appSource]
    rfl
  have hrouters : (context.bare.routers.map (routerArtifact context.bare)).map Artifact.blank =
      (context.routers.map (routerArtifact context)).map Artifact.blank := by
    simp only [Context.bare, List.map_map]
    refine List.map_congr_left fun router _ ↦ ?_
    simp only [Function.comp_apply, Artifact.blank, routerArtifact]
    exact congrArg (Artifact.mk _) (blank_routerSource context router)
  rw [artifacts, artifacts, List.map_append, List.map_append, hcommon, hrouters]

/-- The blanked files of a package whose source is whole are those of its source without free
texts. -/
theorem map_blankFile_files (h : ∀ a ∈ artifacts context, Source.IsWhole a.source) :
    (files context).map blankFile =
      Named.ofPairs (((artifacts context).map Artifact.blank).map fun a ↦
        (a.path, Text.blankLiterals a.source.render)) := by
  have hpairs : ((artifacts context).map fun a ↦ (a.path, a.source.render)).map blankFile =
      ((artifacts context).map Artifact.blank).map fun a ↦
        (a.path, Text.blankLiterals a.source.render) := by
    rw [List.map_map, List.map_map]
    refine List.map_congr_left fun a ha ↦ ?_
    exact congrArg (Prod.mk a.path) (h a ha).blankLiterals_render
  rw [← hpairs]
  exact Named.map_ofPairs Text.blankLiterals _

/-- For the routes of any registry, any table and any API name: with another title, another address
and other descriptions, a package has the same files, and each of them is the same but for what
stands inside of literals. Every file ends outside of a literal. -/
theorem map_blankFile_files_eq {steps : List (Route × Option Call)}
    (hregistry : (Registry.addAll [] steps).outcome = .ok registry)
    (hother : other.map Router.bare = registry.map Router.bare)
    (hcontext : (contextOf ⟨registry, table⟩ apiName sourceUrl title).outcome = .ok context)
    (otherUrl otherTitle : String) :
    ∃ otherContext,
      (contextOf ⟨other, table⟩ apiName otherUrl otherTitle).outcome = .ok otherContext ∧
        (files otherContext).map blankFile = (files context).map blankFile ∧
          ∀ file ∈ files otherContext, Text.IsClosed file.2 := by
  obtain ⟨otherContext, hok, hbare⟩ :=
    exists_contextOf_of_bare_eq hother hcontext otherUrl otherTitle
  have hwhole : ∀ a ∈ artifacts context, Source.IsWhole a.source :=
    fun a ↦ isWhole_of_mem_artifacts (isClean_of_contextOf hregistry hcontext)
  have hartifacts : (artifacts otherContext).map Artifact.blank =
      (artifacts context).map Artifact.blank := by
    rw [← artifacts_bare, hbare, artifacts_bare]
  have hotherWhole : ∀ a ∈ artifacts otherContext, Source.IsWhole a.source := by
    intro a ha
    have hmem : a.blank ∈ (artifacts context).map Artifact.blank :=
      hartifacts ▸ List.mem_map_of_mem ha
    obtain ⟨b, hb, hblank⟩ := List.mem_map.mp hmem
    have hsource : a.source.blank = b.source.blank := (congrArg Artifact.source hblank).symm
    exact Source.spans_blank.mp (hsource ▸ Source.spans_blank.mpr (hwhole b hb))
  refine ⟨otherContext, hok, ?_, ?_⟩
  · rw [map_blankFile_files hwhole, map_blankFile_files hotherWhole, hartifacts]
  · intro file hfile
    obtain ⟨a, ha, rfl⟩ := List.mem_map.mp (Named.mem_of_mem_ofPairs hfile)
    exact (hotherWhole a ha).isClosed_render

/-- A read of an item by its name, with a description. -/
def describedRoute (description : String) : Route :=
  ⟨"readItem", "readItem", "get", "/items/\x7bname\x7d", "items", description,
    [("name", .string false {})], [], none, false, "data", .unknown false⟩

/-- The registry of that read. -/
def describedRegistry (description : String) : Registry :=
  let router := Registry.newRouter [] "items"
  [router.withProcedure (router.procedureFor (describedRoute description)
    (some ⟨"items", "readItem", "read_item", [.plain .path "name"]⟩))]

/-- A text that would end a literal of either kind and go on with code. -/
def closingText : String :=
  "\"\"\"\nimport os\n\\"

/-- Quotes, backslashes and line ends in all the free texts leave the code as it is. -/
theorem closingText_blank : ∃ context otherContext,
    (contextOf ⟨describedRegistry closingText, []⟩ "Api" closingText closingText).outcome =
      .ok context ∧
    (contextOf ⟨describedRegistry "", []⟩ "Api" "" "").outcome = .ok otherContext ∧
    (context.title = closingText ∧ otherContext.title = "Api") ∧
    (files otherContext).map blankFile = (files context).map blankFile ∧
    ∀ file ∈ files otherContext, Text.IsClosed file.2 := by
  have hregistry (description : String) : (Registry.addAll [] [(describedRoute description,
      some ⟨"items", "readItem", "read_item", [.plain .path "name"]⟩)]).outcome =
        .ok (describedRegistry description) := by
    rw [Registry.addAll, Report.outcome_bind_of_ok (Registry.outcome_add _ _ _)]
    rfl
  have hbare : (describedRegistry "").map Router.bare =
      (describedRegistry closingText).map Router.bare := rfl
  obtain ⟨context, hcontext, htitle⟩ : ∃ context,
      (contextOf ⟨describedRegistry closingText, []⟩ "Api" closingText closingText).outcome =
        .ok context ∧ context.title = closingText := by
    decide
  obtain ⟨otherContext, hother, hfiles⟩ :=
    map_blankFile_files_eq (hregistry closingText) hbare hcontext "" ""
  obtain ⟨-, routers, -, hparts⟩ := exists_routerContexts_of_contextOf hother
  have hotherTitle : otherContext.title = "Api" := by
    rw [hparts]
    rfl
  exact ⟨context, otherContext, hcontext, hother, ⟨htitle, hotherTitle⟩, hfiles⟩

end Package

end ApiCompiler
