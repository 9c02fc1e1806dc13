import ApiCompiler.Document.Sample
import ApiCompiler.Proofs.Model.Shadow
import ApiCompiler.Proofs.Package.Bindings

/-!
# The name of the client class

The class of the client is named after an arbitrary text. It is defined in one module of the package
and imported by two others, next to what else these modules import and define. Unlike the names of
component schemas, of models and of their fields it is not kept apart from the names around it. Most
of those an API name cannot give rise to, as they begin with a small letter. It takes one of the
others exactly when its spelling with capitals is that name, and the class of a resource when a
digit in front of its spelling gives back the underscore that such classes have.
-/

namespace ApiCompiler

namespace Naming

/-- An identifier keeps a spelling with capitals that begins with one, and gives any other an
underscore. -/
theorem identifierStem_pascal (name : String) :
    identifierStem (pascal name).toList =
      if (pascal name).toList.head?.any Char.isUpper then (pascal name).toList
      else '_' :: (pascal name).toList := by
  cases hchars : (pascal name).toList with
  | nil => rfl
  | cons c rest =>
    have hwords : ∀ d ∈ c :: rest, (d.isAlphanum || d == '_') = true := fun d hd ↦ by
      rw [isAlphanum_of_mem_pascal (hchars ▸ hd), Bool.true_or]
    have hascii := Text.toNat_lt_of_isAlphanum (hwords c (List.mem_cons_self ..))
    have hclass := isUpper_or_isDigit_of_pascalFrom
      ((pascal_toList name).symm.trans hchars)
    rw [identifierStem, wordChars_of_isAlphanum hwords]
    cases hdigit : c.isDigit with
    | true => simp [Text.isAnyDigit_of_ascii hascii, hdigit, Text.isUpper_of_isDigit hdigit]
    | false =>
      rw [hdigit] at hclass
      simp [Text.isAnyDigit_of_ascii hascii, hdigit, hclass.resolve_right Bool.false_ne_true]

/-- A spelling with capitals that does not begin with one begins with a digit. -/
theorem isDigit_of_pascal {name : String} (hne : pascal name ≠ "")
    (h : (pascal name).toList.head?.any Char.isUpper = false) :
    (pascal name).toList.head?.any Char.isDigit = true := by
  obtain ⟨c, rest, hchars⟩ := List.exists_cons_of_ne_nil (mt String.toList_eq_nil_iff.mp hne)
  rw [hchars] at h ⊢
  have hclass := isUpper_or_isDigit_of_pascalFrom
    ((pascal_toList name).symm.trans hchars)
  exact hclass.resolve_left (Bool.eq_false_iff.mp h)

end Naming

namespace Package

open Document.Sample (object)

/-! ## Names that an API name gives rise to -/

/-- Whether a name begins as that of a class does: with a capital, or with an underscore and a
digit. -/
def beginsAsClass : List Char → Bool
  | '_' :: c :: _ => c.isDigit
  | c :: _ => c.isUpper
  | [] => false

/-- The names that the modules bind and that an API name can give rise to. -/
def takenNames : List String :=
  ["Any", "Optional", "AsyncIterator", "Request", "Context", "FastAPI", "ROUTERS", "AppRouter"]

theorem apiClassName_of_ne {apiName : String} (h : Naming.pascal apiName ≠ "") :
    apiClassName apiName = Naming.identifier (Naming.pascal apiName) [] := by
  rw [apiClassName, ModelScope.className]
  simp only [beq_iff_eq, if_neg h]

theorem apiClassName_of_eq {apiName : String} (h : Naming.pascal apiName = "") :
    apiClassName apiName = "Api" := by
  have hfallback : Naming.identifier "Api" [] = "Api" := by decide
  rw [apiClassName, ModelScope.className]
  simp only [beq_iff_eq, if_pos h, hfallback]

theorem beginsAsClass_apiClassName (apiName : String) :
    beginsAsClass (apiClassName apiName).toList = true := by
  by_cases h : Naming.pascal apiName = ""
  · rw [apiClassName_of_eq h]
    decide
  · obtain ⟨c, rest, hchars⟩ := List.exists_cons_of_ne_nil (mt String.toList_eq_nil_iff.mp h)
    obtain ⟨count, hname⟩ := Naming.exists_identifier_toList (Naming.pascal apiName) []
    rw [apiClassName_of_ne h, hname, Naming.identifierStem_pascal]
    split
    · next hupper =>
      rw [hchars] at hupper ⊢
      have hne : c ≠ '_' := by
        rintro rfl
        exact absurd hupper Bool.false_ne_true
      rw [List.cons_append, beginsAsClass]
      · exact hupper
      · exact fun _ _ heq _ ↦ hne heq
    · next hupper =>
      have hdigit := Naming.isDigit_of_pascal h (Bool.eq_false_iff.mpr hupper)
      rw [hchars] at hdigit ⊢
      exact hdigit

/-- A free word is the name of the client exactly when it is the stem of the API name's spelling. -/
theorem apiClassName_eq_iff {apiName word : String} (hfree : word ∉ Naming.keywords)
    (hlast : word.toList.getLast? ≠ some '_') (hfallback : word ≠ "Api") :
    apiClassName apiName = word ↔
      Naming.identifierStem (Naming.pascal apiName).toList = word.toList := by
  by_cases h : Naming.pascal apiName = ""
  · rw [apiClassName_of_eq h, h]
    refine ⟨fun heq ↦ absurd heq.symm hfallback, fun heq ↦ ?_⟩
    rw [← heq] at hlast
    exact absurd rfl hlast
  · rw [apiClassName_of_ne h, Naming.identifier_eq_iff_stem (by rwa [List.append_nil]) hlast]

theorem apiClassName_mem_takenNames_iff (apiName : String) :
    apiClassName apiName ∈ takenNames ↔ Naming.pascal apiName ∈ takenNames := by
  have hwords : ∀ word ∈ takenNames, word ∉ Naming.keywords ∧
      word.toList.getLast? ≠ some '_' ∧ word ≠ "Api" ∧
        word.toList.head?.any Char.isUpper = true := by
    decide
  have hsame {word : String} (hword : word ∈ takenNames) :
      apiClassName apiName = word ↔ Naming.pascal apiName = word := by
    obtain ⟨hfree, hlast, hfallback, hupper⟩ := hwords word hword
    rw [apiClassName_eq_iff hfree hlast hfallback, Naming.identifierStem_pascal]
    split
    · exact String.toList_inj
    · next hdigit =>
      refine ⟨fun heq ↦ ?_, fun heq ↦ ?_⟩
      · rw [← heq] at hupper
        exact absurd hupper Bool.false_ne_true
      · rw [heq] at hdigit
        exact absurd hupper hdigit
  constructor
  · intro h
    rwa [(hsame h).mp rfl]
  · intro h
    rwa [(hsame h).mpr rfl]

/-- The client has the class name of a resource exactly when the API name is spelled as that without
its underscore, which only a digit in front gives back. -/
theorem apiClassName_eq_className_iff (apiName : String) (router : RouterContext) :
    apiClassName apiName = router.className ↔
      Naming.pascal apiName = Naming.pascal router.nspace ++ "Resource" ∧
        (Naming.pascal apiName).toList.head?.any Char.isDigit = true := by
  have hchars : router.className.toList =
      '_' :: (Naming.pascal router.nspace ++ "Resource").toList := by
    rw [RouterContext.className, String.append_assoc, String.toList_append]
    rfl
  have hends : (Naming.pascal router.nspace ++ "Resource").toList.getLast? = some 'e' := by
    rw [String.toList_append, List.getLast?_append_of_ne_nil _ (by decide)]
    decide
  have hlast : router.className.toList.getLast? = some 'e' := by
    rw [hchars, List.getLast?_cons, hends]
    rfl
  have hfree : ∀ word ∈ "Api" :: Naming.keywords, word.toList.head? ≠ some '_' := by decide
  have hother : ∀ word ∈ "Api" :: Naming.keywords, router.className ≠ word := by
    rintro word hword rfl
    exact hfree _ hword (by rw [hchars]; rfl)
  have hne : Naming.pascal router.nspace ++ "Resource" ≠ "" := by
    intro h
    rw [h] at hends
    cases hends
  rw [apiClassName_eq_iff (fun hmem ↦ hother _ (List.mem_cons_of_mem _ hmem) rfl)
    (by rw [hlast]; decide) (hother _ (List.mem_cons_self ..)), Naming.identifierStem_pascal,
    hchars]
  split
  · next hupper =>
    refine ⟨fun heq ↦ ?_, fun h ↦ ?_⟩
    · rw [heq] at hupper
      exact absurd hupper Bool.false_ne_true
    · have hdigit := h.2
      rw [Option.any_eq_true] at hupper hdigit
      obtain ⟨c, hc, hupper⟩ := hupper
      obtain ⟨d, hd, hdigit⟩ := hdigit
      obtain rfl : c = d := Option.some.inj (hc.symm.trans hd)
      simp [Text.isUpper_of_isDigit hdigit] at hupper
  · next hupper =>
    rw [List.cons.injEq, String.toList_inj]
    refine ⟨fun h ↦ ⟨h.2, ?_⟩, fun h ↦ ⟨rfl, h.1⟩⟩
    exact Naming.isDigit_of_pascal (h.2 ▸ hne) (Bool.eq_false_iff.mpr hupper)

/-! ## Names around the client -/

variable {context : Context}

/-- The name of the client is not that of another thing that a module binds beside it. -/
def Context.HasFreeClient (context : Context) : Prop :=
  ∀ source ∈ [clientSource context, contextSource context, packageSource context],
    (Text.boundNames source.render).count context.apiName = 1

/-- The names that the modules bind beside the client and the classes of resources. -/
def fixedNames : List String :=
  clientHeadNames ++ contextImports ++ contextDefinitions ++ packageImports ++ packageDefinitions

/-- The modules bind the name of the client once each exactly when it is none of the other names
that they bind. -/
theorem hasFreeClient_iff (h : context.IsClean) :
    context.HasFreeClient ↔ context.apiName ∉ fixedNames ∧
      context.apiName ∉ context.routers.map RouterContext.className := by
  have hcount (before behind : List String) :
      (before ++ context.apiName :: behind).count context.apiName = 1 ↔
        context.apiName ∉ before ∧ context.apiName ∉ behind := by
    rw [List.count_append, List.count_cons_self, ← List.count_eq_zero, ← List.count_eq_zero]
    omega
  simp only [Context.HasFreeClient, List.forall_mem_cons, (clientSource_binds h).boundNames_eq,
    (contextSource_binds h.apiName).boundNames_eq, (packageSource_binds h.apiName).boundNames_eq,
    hcount, Context.clientNames, fixedNames, List.mem_append, not_or]
  constructor
  · rintro ⟨⟨⟨hhead, hclasses⟩, -⟩, ⟨himports, hdefinitions⟩, ⟨hpackage, hexports⟩, -⟩
    exact ⟨⟨⟨⟨⟨hhead, himports⟩, hdefinitions⟩, hpackage⟩, hexports⟩, hclasses⟩
  · rintro ⟨⟨⟨⟨⟨hhead, himports⟩, hdefinitions⟩, hpackage⟩, hexports⟩, hclasses⟩
    exact ⟨⟨⟨hhead, hclasses⟩, nofun⟩, ⟨himports, hdefinitions⟩, ⟨hpackage, hexports⟩, nofun⟩

/-- Among the fixed names of the modules, an API name can only give rise to a few. -/
theorem apiClassName_mem_fixedNames_iff (apiName : String) :
    apiClassName apiName ∈ fixedNames ↔ Naming.pascal apiName ∈ takenNames := by
  have hnames : ∀ name ∈ fixedNames, name ∈ takenNames ∨ beginsAsClass name.toList = false := by
    decide
  have htaken : ∀ name ∈ takenNames, name ∈ fixedNames := by decide
  rw [← apiClassName_mem_takenNames_iff]
  refine ⟨fun hmem ↦ (hnames _ hmem).resolve_right fun hbegins ↦ ?_, htaken _⟩
  rw [beginsAsClass_apiClassName] at hbegins
  cases hbegins

/-- For every document the client has a name that can be written. Each of the modules binds it once
exactly when its spelling with capitals is none of the names that they import or define, and not,
with a digit in front, that of the class of a resource. -/
theorem client_isFree_iff {document : Value} {overrides : Overrides}
    {compilation : Compilation} {apiName sourceUrl title : String} {context : Context}
    (h : (Compilation.ofDocument document overrides).outcome = .ok compilation)
    (hcontext : (contextOf compilation apiName sourceUrl title).outcome = .ok context) :
    Naming.IsUsable [] context.apiName ∧
      (context.HasFreeClient ↔
        Naming.pascal apiName ∉ takenNames ∧ ∀ router ∈ context.routers,
          ¬(Naming.pascal apiName = Naming.pascal router.nspace ++ "Resource" ∧
            (Naming.pascal apiName).toList.head?.any Char.isDigit = true)) := by
  have hclean := isClean_of_isConsistent (Compilation.isConsistent_registry h) hcontext
  have hname : context.apiName = apiClassName apiName := by
    obtain ⟨-, _, -, rfl⟩ := exists_routerContexts_of_contextOf hcontext
    rfl
  have hresource : context.apiName ∈ context.routers.map RouterContext.className ↔
      ∃ router ∈ context.routers,
        Naming.pascal apiName = Naming.pascal router.nspace ++ "Resource" ∧
          (Naming.pascal apiName).toList.head?.any Char.isDigit = true := by
    rw [hname, List.mem_map]
    refine exists_congr fun router ↦ and_congr_right fun _ ↦ ?_
    rw [eq_comm, apiClassName_eq_className_iff]
  have hfallback : ∀ c ∈ "Api".toList, c.isAlphanum = true := List.all_eq_true.mp (by decide)
  refine ⟨hname ▸ ModelScope.className_isUsable apiName hfallback, ?_⟩
  rw [hasFreeClient_iff hclean, hresource, hname, apiClassName_mem_fixedNames_iff]
  exact and_congr_right fun _ ↦
    ⟨fun hnone router hrouter hsame ↦ hnone ⟨router, hrouter, hsame⟩,
      fun hall ⟨router, hrouter, hsame⟩ ↦ hall router hrouter hsame⟩

/-- A resource whose class has a digit behind its underscore. -/
def numberedDocument : Value :=
  object [("paths", object [("/1/a", object [("get", object [])])])]

/-- The client has a name of its own, or that of the request context, or that of a resource. -/
theorem numberedDocument_takesNames :
    ∃ compilation, (Compilation.ofDocument numberedDocument []).outcome = .ok compilation ∧
      (∃ context, (contextOf compilation "Api" "" "").outcome = .ok context ∧
        context.HasFreeClient) ∧
      (∃ context, (contextOf compilation "Context" "" "").outcome = .ok context ∧
        ¬context.HasFreeClient) ∧
      ∃ context, (contextOf compilation "1 resource" "" "").outcome = .ok context ∧
        ¬context.HasFreeClient := by
  obtain ⟨compilation, h, ⟨own, hown, -⟩, ⟨taken, htaken, -⟩, resource, hresource, hnspaces⟩ :
      ∃ compilation, (Compilation.ofDocument numberedDocument []).outcome = .ok compilation ∧
        (∃ context, (contextOf compilation "Api" "" "").outcome = .ok context ∧ True) ∧
        (∃ context, (contextOf compilation "Context" "" "").outcome = .ok context ∧ True) ∧
        ∃ context, (contextOf compilation "1 resource" "" "").outcome = .ok context ∧
          context.routers.map RouterContext.nspace = ["_1"] := by
    decide +kernel
  refine ⟨compilation, h, ⟨own, hown, (client_isFree_iff h hown).2.mpr ⟨by decide, ?_⟩⟩,
    ⟨taken, htaken, fun hfree ↦ ?_⟩, resource, hresource, fun hfree ↦ ?_⟩
  · rintro router - ⟨-, hdigit⟩
    exact absurd hdigit (by decide)
  · exact ((client_isFree_iff h htaken).2.mp hfree).1 (by decide)
  · have hmem : "_1" ∈ resource.routers.map RouterContext.nspace :=
      hnspaces ▸ List.mem_singleton_self _
    obtain ⟨router, hrouter, hnspace⟩ := List.mem_map.mp hmem
    refine ((client_isFree_iff h hresource).2.mp hfree).2 router hrouter ?_
    rw [hnspace]
    decide

end Package

end ApiCompiler
