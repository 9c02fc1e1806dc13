import ApiCompiler.Package
import ApiCompiler.Proofs.Compile
import ApiCompiler.Proofs.Package.Install
import ApiCompiler.Proofs.Package.Operations
import ApiCompiler.Proofs.Registry.Consistency

/-!
# The paths of a package

A package has seven files whatever it is generated from, and one module for each router. Each has a
relative path without steps back, since a router module is named in snake case, and the paths are
distinct: router modules have distinct names, of which none is that of another module in their
directory. So every artifact is written to a file of its own, inside the directory of the
package.
-/

namespace ApiCompiler

/-! ## Names of router modules

A router module is named like the attribute of the client: in snake case, apart from the words of
the language and with a number where the name is taken. In the directory of routers there are two
modules besides. Both of their names have letters after underscores in front, and a snake-case name
never has: its runs have no underscores around them, so that an underscore in front comes from the
search for an identifier and stands before a digit or before nothing. -/

namespace Naming

/-! ## Underscores in front -/

/-- A text in which nothing but a digit comes after underscores in front. -/
def LeadsToDigit (text : List Char) : Prop :=
  text.head? = some '_' → ∀ c ∈ (text.dropWhile (· == '_')).head?, c.isDigit = true

theorem LeadsToDigit.append {text tail : List Char} (h : LeadsToDigit text)
    (htail : ∀ c ∈ (tail.dropWhile (· == '_')).head?, c.isDigit = true) :
    LeadsToDigit (text ++ tail) := by
  intro hhead c hc
  rw [List.dropWhile_append] at hc
  split at hc
  · exact htail c hc
  · next hrest =>
    have hne : text.dropWhile (· == '_') ≠ [] := by simpa using hrest
    rw [List.head?_append_of_ne_nil _ hne] at hc
    cases text with
    | nil => exact absurd rfl hne
    | cons first rest => exact h hhead c hc

/-- A snake-case name begins with a letter or a digit, unless it is the name of a text without
any. -/
theorem head_snakeIdentifierChars (text : List Char) :
    snakeIdentifierChars text = ['_'] ∨
      ∃ c rest, snakeIdentifierChars text = c :: rest ∧ isSnakePart c = true := by
  unfold snakeIdentifierChars
  split
  · exact .inl rfl
  · next hjoined =>
    right
    cases hruns : snakeRunsFrom [] (snakeChars text) with
    | nil => exact absurd (by rw [hruns, joinRuns]) hjoined
    | cons run rest =>
      have hmem : run ∈ snakeRunsFrom [] (snakeChars text) := hruns ▸ List.mem_cons_self ..
      obtain ⟨c, tail, rfl⟩ := List.exists_cons_of_ne_nil (ne_nil_of_mem_snakeRunsFrom hmem)
      have hc := isSnakePart_of_mem_run (by simp) hmem (List.mem_cons_self ..)
      cases rest with
      | nil => exact ⟨c, tail, rfl, hc⟩
      | cons next others => exact ⟨c, _, rfl, hc⟩

theorem leadsToDigit_identifierStem (text : String) :
    LeadsToDigit (identifierStem (snakeIdentifier text).toList) := by
  have hsnake : ∀ c ∈ (snakeIdentifier text).toList, IsSnakeChar c :=
    fun _ ↦ isSnakeChar_of_mem_snakeIdentifier
  rw [identifierStem, wordChars_of_isSnakeChar hsnake, snakeIdentifier, String.toList_ofList]
  rcases head_snakeIdentifierChars text.toList with hchars | ⟨c, rest, hchars, hc⟩
  · have hdigit : Text.isAnyDigit '_' = false := Text.isAnyDigit_of_ascii (by decide)
    rw [hchars]
    simp [LeadsToDigit, hdigit]
  · have hne : c ≠ '_' := by
      rintro rfl
      exact absurd hc (by decide)
    have hascii := toNat_lt_of_isSnakeChar (.inl hc)
    rw [hchars]
    simp only [Text.isAnyDigit_of_ascii hascii]
    split
    · next hdigit =>
      intro _ d hd
      obtain rfl : c = d := by simpa [List.dropWhile_cons, hne] using hd
      exact hdigit
    · exact fun hhead ↦ absurd (by simpa using hhead) hne

theorem leadsToDigit_identifier (text : String) (reserved : List String) :
    LeadsToDigit (identifier (snakeIdentifier text) reserved).toList := by
  obtain ⟨count, hchars⟩ := exists_identifier_toList (snakeIdentifier text) reserved
  rw [hchars]
  refine (leadsToDigit_identifierStem text).append fun c hc ↦ ?_
  rw [List.dropWhile_replicate, if_pos (beq_self_eq_true _)] at hc
  simp at hc

theorem LeadsToDigit.numbered {base : String} (h : LeadsToDigit base.toList) (count : Nat) :
    LeadsToDigit (numbered base "_" count).toList := by
  cases count with
  | zero => exact h
  | succ i =>
    rw [numbered_succ_toList, List.append_assoc]
    refine h.append fun c hc ↦ ?_
    have hnumber : ∀ c ∈ Nat.toDigits 10 (i + 2), c.isDigit = true := fun c hc ↦
      Nat.isDigit_of_mem_toDigits (by decide) (by decide) hc
    have hdrop : ("_".toList ++ Nat.toDigits 10 (i + 2)).dropWhile (· == '_') =
        (Nat.toDigits 10 (i + 2)).dropWhile (· == '_') := rfl
    rw [hdrop] at hc
    exact hnumber c ((List.dropWhile_sublist _).subset (List.mem_of_mem_head? hc))

/-! ## Modules -/

/-- The modules that the directory of routers always has. -/
def fixedModules : List String := ["__init__", "_app"]

/-- A name that a router module can have: an identifier of small ASCII letters, digits and
underscores that is no word of the language and the name of no other kind of module. -/
structure IsModuleName (name : String) : Prop where
  isSnakeChar : ∀ c ∈ name.toList, IsSnakeChar c
  isUsable : IsUsable fixedModules name

theorem not_mem_fixedModules {name : String} (h : LeadsToDigit name.toList) :
    name ∉ fixedModules := by
  intro hmem
  have hletter : ∀ name ∈ fixedModules, name.toList.head? = some '_' ∧
      ∃ c, (name.toList.dropWhile (· == '_')).head? = some c ∧ c.isDigit = false := by
    simp only [fixedModules, List.forall_mem_cons, List.not_mem_nil, false_implies, implies_true,
      and_true]
    exact ⟨⟨rfl, 'i', rfl, rfl⟩, ⟨rfl, 'a', rfl, rfl⟩⟩
  obtain ⟨hhead, c, hc, hdigit⟩ := hletter name hmem
  exact absurd (h hhead c hc) (by simp [hdigit])

end Naming

open Naming (IsModuleName)

/-- A new router can be written to a module of its name. -/
theorem Registry.newRouter_isModuleName (registry : Registry) (resource : String) :
    IsModuleName (registry.newRouter resource).nspace := by
  have husable := newRouter_nspace_isUsable registry resource
  obtain ⟨count, hname, _⟩ := newRouter_isFirstFree registry resource
  refine ⟨isSnakeChar_of_mem_newRouter_nspace registry resource, husable.isIdentifier,
    husable.not_keyword, Naming.not_mem_fixedModules ?_⟩
  rw [hname]
  exact (Naming.leadsToDigit_identifier resource Naming.clientReserved).numbered count

/-! ## Paths -/

/-- A collection has the names of the pairs that it is made of. -/
theorem Named.names_ofPairs_subset {α : Type} (pairs : List (String × α)) :
    (ofPairs pairs).names ⊆ pairs.map Prod.fst := by
  intro name hname
  obtain ⟨entry, hentry, rfl⟩ := List.mem_map.mp hname
  exact List.mem_map_of_mem (mem_of_mem_ofPairs hentry)

namespace Package

open Files (Path)

/-- The path of a router module is that of a name in the directory of routers. -/
theorem isInside_routerPath {nspace : String} (h : ∀ c ∈ nspace.toList, Naming.IsSnakeChar c) :
    IsInside (.ofText ("routers/" ++ nspace ++ ".py")) := by
  have hslash : '/' ∉ nspace.toList ++ ".py".toList := by
    rw [List.mem_append, not_or]
    refine ⟨fun hmem ↦ ?_, by decide⟩
    rcases h _ hmem with hpart | hunderscore
    · exact absurd hpart (by decide)
    · exact absurd hunderscore (by decide)
  have htext : ("routers/" ++ nspace ++ ".py").toList =
      "routers".toList ++ '/' :: (nspace.toList ++ ".py".toList) := by
    simp
  have hne {short : String} (hshort : short.length < 3) : nspace ++ ".py" ≠ short := by
    rintro rfl
    have hsuffix : ".py".length = 3 := rfl
    rw [String.length_append, hsuffix] at hshort
    omega
  have hnames : (Path.ofText ("routers/" ++ nspace ++ ".py")).names =
      ["routers", nspace ++ ".py"] := by
    have hempty : nspace ++ ".py" ≠ "" := hne (by decide)
    have hdot : nspace ++ ".py" ≠ "." := hne (by decide)
    rw [Path.ofText, htext, Text.splitOn_append (by decide), Text.splitOn_of_not_mem hslash]
    simp [hempty, hdot]
  have hback : nspace ++ ".py" ≠ ".." := hne (by decide)
  refine ⟨⟨by simp [hnames], by simp [hnames, hback.symm]⟩, ?_⟩
  rw [Path.ofText, htext]
  rfl

theorem isInside_commonPath {context : Context} {a : Artifact} (h : a ∈ commonArtifacts context) :
    IsInside (.ofText a.path) := by
  have hpath : a.path ∈ (commonArtifacts context).map Artifact.path := List.mem_map_of_mem h
  revert hpath
  generalize a.path = path
  simp only [commonArtifacts, List.map_cons, List.map_nil]
  intro hpath
  have hall : ∀ path ∈ ["__init__.py", "client.py", "schemas.py", "context.py", "procedures.py",
      "routers/__init__.py", "routers/_app.py"], (Path.ofText path).names ≠ [] ∧
        ".." ∉ (Path.ofText path).names ∧ (Path.ofText path).root = "" := by
    decide
  obtain ⟨hne, hback, hroot⟩ := hall path hpath
  exact ⟨⟨hne, hback⟩, hroot⟩

/-- Every file of a package that a document is compiled to lies inside the package. -/
theorem isInside_of_mem_files {document : Value} {overrides : Overrides}
    {compilation : Compilation} {apiName url title : String} {context : Context}
    (h : (Compilation.ofDocument document overrides).outcome = .ok compilation)
    (hcontext : (contextOf compilation apiName url title).outcome = .ok context)
    {file : String × String} (hfile : file ∈ files context) : IsInside (.ofText file.1) := by
  have hpath : file.1 ∈ (artifacts context).map Artifact.path := by
    have hnames := Named.names_ofPairs_subset _ (List.mem_map_of_mem hfile)
    rwa [List.map_map] at hnames
  obtain ⟨a, ha, hpath⟩ := List.mem_map.mp hpath
  rw [← hpath]
  rcases List.mem_append.mp ha with hcommon | hrouter
  · exact isInside_commonPath hcommon
  · obtain ⟨rendered, hrendered, rfl⟩ := List.mem_map.mp hrouter
    obtain ⟨router, hrouter, hisOf⟩ :=
      exists_mem_of_forall₂ (forall₂_isOf_of_contextOf hcontext) hrendered
    rw [routerArtifact, hisOf.nspace_eq]
    exact isInside_routerPath (Compilation.isSnakeChar_of_mem_nspace h hrouter)

end Package

end ApiCompiler

namespace ApiCompiler

open Naming (IsModuleName)

/-- Every router of a compiled document can be written to a module of its name. -/
theorem Compilation.isModuleName_of_mem {document : Value} {overrides : Overrides}
    {compilation : Compilation}
    (h : (Compilation.ofDocument document overrides).outcome = .ok compilation) {router : Router}
    (hrouter : router ∈ compilation.registry) : IsModuleName router.nspace := by
  obtain ⟨steps, hsteps, _⟩ := exists_addAll h
  exact Registry.forall_router_of_addAll (P := fun router ↦ IsModuleName router.nspace)
    Registry.newRouter_isModuleName (fun _ hname _ _ ↦ hname) (by simp) hsteps router hrouter

namespace Package

open Document.Sample (object)

/-! ## Paths of artifacts -/

/-- The paths that every package has. -/
def fixedPaths : List String :=
  ["__init__.py", "client.py", "schemas.py", "context.py", "procedures.py", "routers/__init__.py",
    "routers/_app.py"]

/-- The path of a router module. -/
def modulePath (nspace : String) : String :=
  "routers/" ++ nspace ++ ".py"

theorem map_path_artifacts (context : Context) :
    (artifacts context).map Artifact.path =
      fixedPaths ++ (context.routers.map RouterContext.nspace).map modulePath := by
  rw [artifacts, List.map_append, List.map_map, List.map_map]
  rfl

theorem modulePath_injective : Function.Injective modulePath := by
  intro nspace other h
  have hchars := congrArg String.toList h
  simp only [modulePath, String.toList_append] at hchars
  exact String.toList_injective (List.append_cancel_left (List.append_cancel_right hchars))

/-- A router module takes a path that every package has only under the name of a module that the
directory of routers always has. -/
theorem modulePath_mem_fixedPaths {nspace : String} (h : modulePath nspace ∈ fixedPaths) :
    nspace ∈ Naming.fixedModules := by
  have hdirectory : (modulePath nspace).toList.take 8 = "routers/".toList := by
    rw [modulePath, String.append_assoc, String.toList_append]
    rfl
  have hmodules : ∀ path ∈ fixedPaths, path.toList.take 8 = "routers/".toList →
      ∃ name ∈ Naming.fixedModules, path = modulePath name := by
    decide
  obtain ⟨name, hname, hpath⟩ := hmodules _ h hdirectory
  exact modulePath_injective hpath ▸ hname

/-- Distinct names of modules give the artifacts distinct paths. -/
theorem map_path_artifacts_nodup {context : Context}
    (hdistinct : (context.routers.map RouterContext.nspace).Nodup)
    (hnames : ∀ router ∈ context.routers, IsModuleName router.nspace) :
    ((artifacts context).map Artifact.path).Nodup := by
  rw [map_path_artifacts, List.nodup_append]
  refine ⟨by decide, hdistinct.map modulePath_injective, ?_⟩
  rintro path hfixed _ hmodule rfl
  simp only [List.mem_map] at hmodule
  obtain ⟨_, ⟨router, hrouter, rfl⟩, rfl⟩ := hmodule
  exact (hnames router hrouter).isUsable.not_reserved (modulePath_mem_fixedPaths hfixed)

/-! ## Files -/

/-- A package in which every artifact has a file of its own inside the directory of the package, the
routers under the distinct names of their modules. -/
structure KeepsApart (context : Context) : Prop where
  files_eq : files context = (artifacts context).map fun a ↦ (a.path, a.source.render)
  names_eq : (files context).names =
    fixedPaths ++ (context.routers.map RouterContext.nspace).map modulePath
  length_eq : (files context).length = 7 + context.routers.length
  names_nodup : (files context).names.Nodup
  modules_nodup : (context.routers.map RouterContext.nspace).Nodup
  isModuleName : ∀ router ∈ context.routers, IsModuleName router.nspace
  isInside : ∀ path ∈ (files context).names, IsInside (.ofText path)

/-- Whatever the paths of a document are, the package that it is compiled to has seven files and one
for each router, none of which takes the place of another or lies outside the package. -/
theorem keepsApart_of_contextOf {document : Value} {overrides : Overrides}
    {compilation : Compilation} {apiName url title : String} {context : Context}
    (h : (Compilation.ofDocument document overrides).outcome = .ok compilation)
    (hcontext : (contextOf compilation apiName url title).outcome = .ok context) :
    KeepsApart context := by
  have hwritten := forall₂_isOf_of_contextOf hcontext
  have hnspaces : context.routers.map RouterContext.nspace =
      compilation.registry.map Router.nspace :=
    map_eq_map_of_forall₂ (fun _ _ hisOf ↦ hisOf.nspace_eq) hwritten
  have hdistinct : (context.routers.map RouterContext.nspace).Nodup :=
    hnspaces ▸ (Compilation.isConsistent_registry h).nspaces_nodup
  have hmodules : ∀ router ∈ context.routers, IsModuleName router.nspace := by
    intro rendered hrendered
    obtain ⟨router, hrouter, hisOf⟩ := exists_mem_of_forall₂ hwritten hrendered
    exact hisOf.nspace_eq ▸ Compilation.isModuleName_of_mem h hrouter
  have hpaths := map_path_artifacts_nodup hdistinct hmodules
  have hfiles : files context = (artifacts context).map fun a ↦ (a.path, a.source.render) :=
    Named.ofPairs_of_nodup (by rwa [List.map_map])
  have hnames : (files context).names = (artifacts context).map Artifact.path := by
    rw [hfiles, Named.names, List.map_map]
    rfl
  refine ⟨hfiles, ?_, ?_, hnames ▸ hpaths, hdistinct, hmodules, fun path hpath ↦ ?_⟩
  · rw [hnames, map_path_artifacts]
  · rw [hfiles, List.length_map, artifacts, List.length_append, List.length_map]
    rfl
  · obtain ⟨file, hfile, rfl⟩ := List.mem_map.mp hpath
    exact isInside_of_mem_files h hcontext hfile

/-- A document whose resources have nothing in common with names of modules. -/
def oddPathsDocument : Value :=
  let item := object [("get", object [])]
  object [("paths", object (["/__init__", "/_app", "/../_app", "/%2e%2e", "/é", "/1a", "/class",
    "/A", "/a", "/a_2", "/a-2", "/aclose"].map (·, item)))]

/-- Each resource has a module of its own beside the seven files. -/
theorem oddPathsDocument_keepsApart :
    ∃ compilation context,
      (Compilation.ofDocument oddPathsDocument []).outcome = .ok compilation ∧
      (contextOf compilation "Api" "" "").outcome = .ok context ∧
      KeepsApart context ∧
      (files context).names = fixedPaths ++ ["routers/init.py", "routers/app.py", "routers/_.py",
        "routers/_2e_2e.py", "routers/__2.py", "routers/_1a.py", "routers/class_.py",
        "routers/a.py", "routers/a_2.py", "routers/a_2_2.py", "routers/a_2_3.py",
        "routers/aclose_.py"] := by
  obtain ⟨compilation, h, context, hcontext, hnspaces⟩ : ∃ compilation,
      (Compilation.ofDocument oddPathsDocument []).outcome = .ok compilation ∧
      ∃ context, (contextOf compilation "Api" "" "").outcome = .ok context ∧
      context.routers.map RouterContext.nspace = ["init", "app", "_", "_2e_2e", "__2", "_1a",
        "class_", "a", "a_2", "a_2_2", "a_2_3", "aclose_"] := by
    decide +kernel
  have hapart := keepsApart_of_contextOf h hcontext
  refine ⟨compilation, context, h, hcontext, hapart, ?_⟩
  rw [hapart.names_eq, hnspaces]
  decide

end Package

end ApiCompiler
