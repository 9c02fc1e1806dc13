import ApiCompiler.Package
import ApiCompiler.Proofs.Package.Operations
import ApiCompiler.Proofs.PathTemplate
import ApiCompiler.Proofs.Text.Evaluate

/-!
# Texts of quoted literals

The texts that a package holds as quoted literals: the title, the resources, and for each operation
its path, the templates of its path, its method and the text of its error. They are evaluated to
themselves unless the title or a path has a character beyond the first plane. The templates of an
evaluated path are the evaluated names, whatever the characters are.
-/

namespace ApiCompiler.Package

open Document.Sample (object)
open Text (IsBasic codeUnits evaluate? inCodeUnits quotedAscii)

/-! ## Quoted texts of source -/

/-- The text of a quoted literal. -/
def Chunk.quoted? : Chunk → Option String
  | quoted text => some text
  | _ => none

/-- The texts of the quoted literals in order. -/
def Source.quotedTexts (source : Source) : List String :=
  source.filterMap Chunk.quoted?

namespace Source

theorem quotedTexts_append (source rest : Source) :
    quotedTexts (source ++ rest) = quotedTexts source ++ quotedTexts rest :=
  List.filterMap_append

theorem quotedTexts_flatMap {α : Type} (f : α → Source) (items : List α) :
    quotedTexts (items.flatMap f) = items.flatMap fun item ↦ quotedTexts (f item) :=
  List.filterMap_flatMap

/-- Lines of code have no quoted literals. -/
theorem quotedTexts_map_line {α : Type} (f : α → String) (items : List α) :
    quotedTexts (items.map fun item ↦ line (f item)) = [] := by
  rw [quotedTexts, List.filterMap_eq_nil_iff]
  intro chunk hchunk
  obtain ⟨item, -, rfl⟩ := List.mem_map.mp hchunk
  rfl

theorem quotedTexts_lines (texts : List String) : quotedTexts (lines texts) = [] :=
  quotedTexts_map_line id texts

end Source

open Source

variable {context : Context}

theorem flatMap_quotedTexts_modelSource (models : List Model) :
    (models.flatMap fun model ↦ quotedTexts (modelSource model)) = [] :=
  List.flatMap_eq_nil_iff.mpr fun _ _ ↦ quotedTexts_lines _

theorem quotedTexts_packageSource (context : Context) :
    (packageSource context).quotedTexts = [context.title] := by
  simp only [packageSource, quotedTexts_append, quotedTexts_lines]
  rfl

theorem quotedTexts_valueEntries (params : Named String) :
    (valueEntries params).quotedTexts = params.names := by
  fun_induction valueEntries params with
  | case1 => rfl
  | case2 name parameter => rfl
  | case3 name parameter rest _ ih =>
    rw [quotedTexts_append, ih]
    rfl

theorem quotedTexts_methodSource (method : ClientMethod) :
    (methodSource method).quotedTexts =
      method.path :: method.params.names ++ [method.httpMethod] := by
  rw [methodSource, quotedTexts_append, quotedTexts_append, quotedTexts_valueEntries]
  rfl

theorem quotedTexts_clientSource (context : Context) :
    (clientSource context).quotedTexts = context.routers.flatMap fun router ↦
      router.methods.flatMap fun method ↦
        method.path :: method.params.names ++ [method.httpMethod] := by
  have hresource (router : RouterContext) : quotedTexts (resourceSource context.apiName router) =
      router.methods.flatMap fun method ↦
        method.path :: method.params.names ++ [method.httpMethod] := by
    simp only [resourceSource, quotedTexts_append, quotedTexts_lines, quotedTexts_flatMap,
      quotedTexts_methodSource]
    exact List.append_nil _
  have hattributes : quotedTexts (context.routers.map resourceAttribute) = [] :=
    quotedTexts_map_line _ _
  simp only [clientSource, clientHead, clientStart, clientEnd, quotedTexts_append,
    quotedTexts_lines, quotedTexts_flatMap, hresource, hattributes, List.append_nil]
  rfl

theorem quotedTexts_componentSource (context : Context) :
    (componentSource context).quotedTexts = [] := by
  have haliases : quotedTexts (aliasSource context.components.aliases) = [] := by
    unfold aliasSource
    split
    · rfl
    · exact quotedTexts_map_line _ _
  have hrebuild : quotedTexts (rebuildSource context.components.models) = [] := by
    unfold rebuildSource
    split
    · rfl
    · simp only [quotedTexts_append, quotedTexts_lines, quotedTexts_map_line, List.append_nil]
  simp only [componentSource, componentHead, quotedTexts_append, quotedTexts_lines,
    quotedTexts_flatMap, flatMap_quotedTexts_modelSource, haliases, hrebuild]
  rfl

theorem quotedTexts_routersSource (context : Context) :
    (routersSource context).quotedTexts = [] := by
  rw [routersSource, quotedTexts_append, quotedTexts_lines]
  rfl

/-- The resources are the keys of the type and of the mapping of the routers. -/
theorem quotedTexts_appSource (context : Context) :
    (appSource context).quotedTexts =
      context.routers.map RouterContext.name ++ context.routers.map RouterContext.name := by
  have hentries (value : RouterContext → String) :
      (context.routers.flatMap fun router ↦ quotedTexts (resourceEntry router (value router))) =
        context.routers.map RouterContext.name := by
    rw [List.map_eq_flatMap]
    rfl
  have himports : quotedTexts (context.routers.map routerImport) = [] := quotedTexts_map_line _ _
  simp only [appSource, quotedTexts_append, quotedTexts_lines, quotedTexts_flatMap, himports,
    hentries, List.append_nil]
  rfl

theorem quotedTexts_routerSource (context : Context) (router : RouterContext) :
    (routerSource context router).quotedTexts =
      router.name :: router.endpoints.map Endpoint.errorMessage := by
  have hendpoints : (router.endpoints.flatMap fun e ↦ quotedTexts (endpointSource e)) =
      router.endpoints.map Endpoint.errorMessage := by
    rw [List.map_eq_flatMap]
    rfl
  simp only [routerSource, routerHead, quotedTexts_append, quotedTexts_lines, quotedTexts_flatMap,
    flatMap_quotedTexts_modelSource, hendpoints]
  rfl

/-- The texts of all the quoted literals of a package. -/
theorem forall_quotedTexts_artifacts_iff {context : Context} {P : String → Prop} :
    (∀ artifact ∈ artifacts context, ∀ text ∈ artifact.source.quotedTexts, P text) ↔
      P context.title ∧ ∀ router ∈ context.routers, P router.name ∧
        (∀ method ∈ router.methods, P method.path ∧ (∀ name ∈ method.params.names, P name) ∧
          P method.httpMethod) ∧
        ∀ e ∈ router.endpoints, P e.errorMessage := by
  have hcontextSource : (contextSource context).quotedTexts = [] := quotedTexts_lines _
  have hprocedures : proceduresSource.quotedTexts = [] := quotedTexts_lines _
  simp only [artifacts, commonArtifacts, routerArtifact, List.forall_mem_append,
    List.forall_mem_cons, List.forall_mem_map, List.forall_mem_flatMap, List.not_mem_nil,
    quotedTexts_packageSource, quotedTexts_clientSource, quotedTexts_componentSource,
    quotedTexts_routersSource, quotedTexts_appSource, quotedTexts_routerSource, hcontextSource,
    hprocedures, false_implies, implies_true, and_true, true_and, and_assoc]
  constructor
  · rintro ⟨htitle, hmethods, -, -, hrouters⟩
    exact ⟨htitle, fun router hrouter ↦
      ⟨(hrouters router hrouter).1, hmethods router hrouter, (hrouters router hrouter).2⟩⟩
  · rintro ⟨htitle, hrouters⟩
    have hnames : ∀ router ∈ context.routers, P router.name := fun router hrouter ↦
      (hrouters router hrouter).1
    exact ⟨htitle, fun router hrouter ↦ (hrouters router hrouter).2.1, hnames, hnames,
      fun router hrouter ↦ ⟨hnames router hrouter, (hrouters router hrouter).2.2⟩⟩

/-! ## Basic texts -/

/-- Evaluation leaves the braces of a path where they are. -/
theorem keepsBrackets_codeUnits : Piece.KeepsBrackets '\x7b' '\x7d' codeUnits where
  opening_eq := by decide
  closing_eq := by decide
  ne_nil c := by
    unfold codeUnits
    split <;> simp
  opening_not_mem c hc h := by
    rcases Text.eq_or_le_of_mem_codeUnits h with heq | hle
    · exact hc heq.symm
    · exact absurd hle (by decide)
  closing_not_mem c hc h := by
    rcases Text.eq_or_le_of_mem_codeUnits h with heq | hle
    · exact hc heq.symm
    · exact absurd hle (by decide)

/-- Methods are basic in upper case and in front of the path in the text of an error. -/
theorem isBasic_of_mem_httpMethods : ∀ method ∈ Document.httpMethods,
    IsBasic (Route.upperMethod method) ∧ IsBasic ("Failed to " ++ method ++ " ") := by
  decide

/-- The evaluated templates of a path are the templates of the evaluated path. -/
theorem mem_params_inCodeUnits_iff {path key : String} :
    key ∈ PathTemplate.params (inCodeUnits path) ↔
      ∃ name ∈ PathTemplate.params path, inCodeUnits name = key :=
  PathTemplate.mem_params_flatMap keepsBrackets_codeUnits

theorem isBasic_of_mem_params {path name : String} (h : IsBasic path)
    (hname : name ∈ PathTemplate.params path) : IsBasic name :=
  h.mono (PathTemplate.subset_of_mem_params hname)

section Package

variable {document : Value} {overrides : Overrides} {compilation : Compilation}
  {apiName sourceUrl title : String}

/-- The parameters of a client method are listed under the templates of its path. -/
theorem names_params_of_mem
    (h : (Compilation.ofDocument document overrides).outcome = .ok compilation)
    (hcontext : (contextOf compilation apiName sourceUrl title).outcome = .ok context)
    {rendered : RouterContext} (hrendered : rendered ∈ context.routers) {method : ClientMethod}
    (hmethod : method ∈ rendered.methods) :
    method.params.names = PathTemplate.params method.path := by
  obtain ⟨router, hrouter, hwritten⟩ :=
    exists_mem_of_forall₂ (forall₂_of_contextOf h hcontext) hrendered
  have hzip : (rendered.endpoints.zip rendered.methods).map Prod.snd = rendered.methods :=
    List.map_snd_zip hwritten.length_eq.ge
  rw [← hzip] at hmethod
  obtain ⟨pair, hpair, rfl⟩ := List.mem_map.mp hmethod
  obtain ⟨p, hp, model, -, hprocedure, -⟩ :=
    exists_mem_of_forall₂ hwritten.forall_procedure hpair
  rw [hprocedure.params_eq, hprocedure.path_eq, names_clientParams,
    (Compilation.isCompiled_of_mem h hrouter hp).isWellFormed.pathParams_names]

theorem method_mem_httpMethods
    (h : (Compilation.ofDocument document overrides).outcome = .ok compilation) {router : Router}
    (hrouter : router ∈ compilation.registry) {p : Procedure} (hp : p ∈ router.procedures) :
    p.route.method ∈ Document.httpMethods := by
  have hnodup := (Compilation.isConsistent_registry h).names_nodup
  obtain ⟨operation, hoperation, hplace, -⟩ :=
    (Compilation.lists_operations h).exists_operation_of_mem hnodup hrouter hp
  have hmethod : operation.method = p.route.method := (Prod.ext_iff.mp hplace).1
  exact hmethod ▸ (Document.of_mem_operations hoperation).1

/-- The resource of a router is basic when the paths of its procedures are. -/
theorem isBasic_name_of_forall
    (h : (Compilation.ofDocument document overrides).outcome = .ok compilation) {router : Router}
    (hrouter : router ∈ compilation.registry)
    (hpaths : ∀ p ∈ router.procedures, IsBasic p.route.path) : IsBasic router.name := by
  have hnodup := (Compilation.isConsistent_registry h).names_nodup
  obtain ⟨hne, hresources⟩ := (Compilation.lists_operations h).procedures_of_mem hnodup hrouter
  obtain ⟨p, hp⟩ := List.exists_mem_of_ne_nil _ hne
  exact (hpaths p hp).mono (PathTemplate.subset_of_resource?_eq_some (hresources p hp))

/-- What is written for a procedure with a basic path is basic. -/
theorem isBasic_of_isOf {p : Procedure} (hmethod : p.route.method ∈ Document.httpMethods)
    (hpath : IsBasic p.route.path) :
    (∀ method : ClientMethod, method.IsOf p → IsBasic method.path ∧ IsBasic method.httpMethod) ∧
      ∀ e : Endpoint, e.IsOf p → IsBasic e.errorMessage := by
  obtain ⟨hupper, herror⟩ := isBasic_of_mem_httpMethods _ hmethod
  refine ⟨fun method hof ↦ ?_, fun e hof ↦ ?_⟩
  · rw [hof.path_eq, hof.httpMethod_eq]
    exact ⟨hpath, hupper⟩
  · rw [Endpoint.errorMessage, hof.method_eq, hof.path_eq]
    exact Text.isBasic_append.mpr ⟨herror, hpath⟩

/-- All that a package quotes is basic exactly when the title and the paths are. -/
theorem isBasic_quotedTexts_iff
    (h : (Compilation.ofDocument document overrides).outcome = .ok compilation)
    (hcontext : (contextOf compilation apiName sourceUrl title).outcome = .ok context) :
    (∀ artifact ∈ artifacts context, ∀ text ∈ artifact.source.quotedTexts, IsBasic text) ↔
      IsBasic context.title ∧ ∀ router ∈ compilation.registry, ∀ p ∈ router.procedures,
        IsBasic p.route.path := by
  have hwritten := forall₂_isOf_of_contextOf hcontext
  rw [forall_quotedTexts_artifacts_iff]
  refine and_congr_right fun _ ↦ ?_
  constructor
  · intro hrouters router hrouter p hp
    obtain ⟨rendered, hrendered, hof⟩ := exists_mem_of_forall₂ (.flip hwritten) hrouter
    obtain ⟨method, hmethod, hofMethod⟩ := exists_mem_of_forall₂ (.flip hof.methods) hp
    have hpath := ((hrouters rendered hrendered).2.1 method hmethod).1
    rwa [hofMethod.path_eq] at hpath
  · intro hpaths rendered hrendered
    obtain ⟨router, hrouter, hof⟩ := exists_mem_of_forall₂ hwritten hrendered
    have hbasic (p : Procedure) (hp : p ∈ router.procedures) :=
      isBasic_of_isOf (method_mem_httpMethods h hrouter hp) (hpaths router hrouter p hp)
    refine ⟨?_, fun method hmethod ↦ ?_, fun e he ↦ ?_⟩
    · rw [hof.name_eq]
      exact isBasic_name_of_forall h hrouter (hpaths router hrouter)
    · obtain ⟨p, hp, hofMethod⟩ := exists_mem_of_forall₂ hof.methods hmethod
      obtain ⟨hpath, hupper⟩ := (hbasic p hp).1 method hofMethod
      refine ⟨hpath, fun name hname ↦ ?_, hupper⟩
      rw [names_params_of_mem h hcontext hrendered hmethod] at hname
      exact isBasic_of_mem_params hpath hname
    · obtain ⟨p, hp, hofEndpoint⟩ := exists_mem_of_forall₂ hof.endpoints he
      exact (hbasic p hp).2 e hofEndpoint

theorem evaluate?_quotedAscii_eq_self_iff {text : String} :
    evaluate? (quotedAscii text) = some text ↔ IsBasic text := by
  rw [Text.evaluate?_quotedAscii, Option.some_inj, Text.inCodeUnits_eq_self_iff]

/-- Every quoted literal of a package is evaluated, to its text by its code units. All of them are
evaluated to their texts exactly when the title and the paths of all operations are basic. The keys
of the mapping of the routers are the resources. The names that a client method passes for its path
are evaluated to those that the evaluated path has as templates. -/
theorem evaluate?_quotedTexts
    (h : (Compilation.ofDocument document overrides).outcome = .ok compilation)
    (hcontext : (contextOf compilation apiName sourceUrl title).outcome = .ok context) :
    ((∀ artifact ∈ artifacts context, ∀ text ∈ artifact.source.quotedTexts,
        evaluate? (quotedAscii text) = some text) ↔
      IsBasic context.title ∧ ∀ router ∈ compilation.registry, ∀ p ∈ router.procedures,
        IsBasic p.route.path) ∧
    (∀ text, evaluate? (quotedAscii text) = some (inCodeUnits text)) ∧
    (appSource context).quotedTexts =
      compilation.registry.map Router.name ++ compilation.registry.map Router.name ∧
    ∀ rendered ∈ context.routers, ∀ method ∈ rendered.methods, ∀ path,
      evaluate? (quotedAscii method.path) = some path →
        ∀ key, (∃ name ∈ (valueEntries method.params).quotedTexts,
          evaluate? (quotedAscii name) = some key) ↔ key ∈ PathTemplate.params path := by
  refine ⟨?_, Text.evaluate?_quotedAscii, ?_, ?_⟩
  · simp only [evaluate?_quotedAscii_eq_self_iff]
    exact isBasic_quotedTexts_iff h hcontext
  · have hnames : context.routers.map RouterContext.name = compilation.registry.map Router.name :=
      map_eq_map_of_forall₂ (fun _ _ hof ↦ hof.name_eq) (forall₂_isOf_of_contextOf hcontext)
    rw [quotedTexts_appSource, hnames]
  · intro rendered hrendered method hmethod path hpath key
    rw [Text.evaluate?_quotedAscii, Option.some_inj] at hpath
    rw [quotedTexts_valueEntries, names_params_of_mem h hcontext hrendered hmethod, ← hpath,
      mem_params_inCodeUnits_iff]
    simp only [Text.evaluate?_quotedAscii, Option.some_inj]

/-- A read whose resource is a character beyond the first plane, with the same character in the name
of a template. -/
def astralDocument : Value :=
  object [("paths", object [("/😀/\x7bé😀\x7d", object [("get", object [])])])]

/-- The resource is evaluated to the two halves of a pair, and so is the name of the template. -/
theorem astralDocument_isMisread : ∃ compilation context,
    (Compilation.ofDocument astralDocument []).outcome = .ok compilation ∧
    (contextOf compilation "Api" "" "").outcome = .ok context ∧
    (appSource context).quotedTexts = ["😀", "😀"] ∧
    evaluate? (quotedAscii "😀") = some (String.ofList [Char.ofNat 0x10d83d, Char.ofNat 0x10de00]) ∧
    (¬ ∀ artifact ∈ artifacts context, ∀ text ∈ artifact.source.quotedTexts,
      evaluate? (quotedAscii text) = some text) := by
  obtain ⟨compilation, h, hpaths, context, hcontext, hkeys⟩ : ∃ compilation,
      (Compilation.ofDocument astralDocument []).outcome = .ok compilation ∧
      (¬ ∀ router ∈ compilation.registry, ∀ p ∈ router.procedures, IsBasic p.route.path) ∧
      ∃ context, (contextOf compilation "Api" "" "").outcome = .ok context ∧
        (appSource context).quotedTexts = ["😀", "😀"] := by
    decide +kernel
  have hresource : evaluate? (quotedAscii "😀") =
      some (String.ofList [Char.ofNat 0x10d83d, Char.ofNat 0x10de00]) := by
    decide
  obtain ⟨hiff, -⟩ := evaluate?_quotedTexts h hcontext
  exact ⟨compilation, context, h, hcontext, hkeys, hresource, fun hall ↦ hpaths (hiff.mp hall).2⟩

end Package

end ApiCompiler.Package
