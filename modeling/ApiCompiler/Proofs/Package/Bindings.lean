import ApiCompiler.Package
import ApiCompiler.Proofs.Package.Clean
import ApiCompiler.Proofs.Package.TopLevel

/-!
# The client and the modules that import it

Source text of three modules of a package: the client, the request context and the package itself.
Each is scanned from code to code when its context is clean, and binds the class of the client next
to fixed names and, in the module of the client, to the classes of resources.
-/

namespace ApiCompiler.Package

open Text (Place IsPlain IsLine IsClosed boundInLine namesIn isPlain_ofList)
open Text.Place
open Source

/-! ## Names in lines of code -/

variable {context : Context} {router : RouterContext}

theorem isClosed_between {before name rest : String} (hbefore : IsPlain before)
    (hname : IsPlain name) (hrest : IsPlain rest) : IsClosed (before ++ name ++ rest) :=
  ((hbefore.append hname).append hrest).isSnippet.isClosed

/-- A name between the quotes of a literal that the code around it opens and closes. -/
theorem isClosed_around {before name rest : String} (hname : Text.isIdentifier name = true)
    (hbefore : code.after before.toList = opening '"' false)
    (hrest : ((short '"' false).after rest.toList).isOutside = true) :
    IsClosed (before ++ name ++ rest) := by
  have hplain := Text.isPlain_of_isIdentifier hname
  have hinside : (opening '"' false).after name.toList = short '"' false := by
    cases hchars : name.toList with
    | nil => exact absurd (String.toList_eq_nil_iff.mp hchars) (Text.ne_empty_of_isIdentifier hname)
    | cons c tail =>
      have hstays : (short '"' false).StaysIn name.toList := hplain.staysIn_short rfl
      have hc := hplain c (by rw [hchars]; exact List.mem_cons_self ..)
      have hquote : (c == '"') = false := by
        simp only [Text.isPlainChar, isContentChar, Bool.and_eq_true, bne_iff_ne] at hc
        simpa using hc.1.2.1.1
      have hnext : (opening '"' false).next c = (short '"' false).next c := by
        simp only [next_opening, next_short, hquote, Bool.false_eq_true, if_false]
      rw [after_cons, hnext, ← after_cons, ← hchars, hstays.after_eq]
  rw [Text.IsClosed, String.toList_append, String.toList_append, after_append, after_append,
    hbefore, hinside]
  exact hrest

/-! ## Names of classes and imports -/

/-- A name between the quotes of a literal of a line. -/
theorem isLine_around {before name rest : String} (hname : Text.isIdentifier name = true)
    (hbefore : code.after before.toList = opening '"' false ∧ '\n' ∉ before.toList)
    (hrest : ((short '"' false).after rest.toList).isOutside = true ∧ '\n' ∉ rest.toList) :
    IsLine (before ++ name ++ rest) := by
  refine ⟨isClosed_around hname hbefore.1 hrest.1, ?_⟩
  simp only [String.toList_append, List.mem_append, not_or]
  exact ⟨⟨hbefore.2, (Text.isPlain_of_isIdentifier hname).not_mem_lineEnd⟩, hrest.2⟩

/-- What a text begins with is its first character. -/
theorem head?_append_append {before name rest : String} (h : before ≠ "") :
    (before ++ name ++ rest).toList.head? = before.toList.head? := by
  rw [String.append_assoc, String.toList_append,
    List.head?_append_of_ne_nil _ (mt String.toList_eq_nil_iff.mp h)]

theorem namesIn_of_isIdentifier {name : String} (h : Text.isIdentifier name = true) :
    namesIn name.toList = [name.toList] := by
  obtain ⟨first, rest, hchars, hfirst, -⟩ := Text.exists_cons_of_isIdentifier h
  have hstart : name.toList.head?.any Text.isIdentifierStart = true := by rwa [hchars]
  rw [Text.namesIn_of_forall (Text.isNameChar_of_isIdentifier h), if_pos hstart]

/-- The line of a class binds the class. -/
theorem binds_class {name : String} (h : Text.isIdentifier name = true) :
    Binds [line ("class " ++ name ++ ":")] [name] := by
  have hname := Text.isPlain_of_isIdentifier h
  have hplain : IsPlain ("class " ++ name ++ ":") :=
    IsPlain.append (IsPlain.append (by decide) hname) (by decide)
  have hbound : boundInLine ("class " ++ name ++ ":").toList = [name] := by
    have hchars : ("class " ++ name ++ ":").toList =
        ['c', 'l', 'a', 's', 's'] ++ ' ' :: (name.toList ++ ':' :: []) := by
      rw [String.toList_append, String.toList_append, List.append_assoc]
      rfl
    rw [hchars, Text.boundInLine_word (by decide) (by decide) (by decide),
      Text.namesIn_append_cons _ (by decide), namesIn_of_isIdentifier h, Text.namesIn_nil,
      List.append_nil, List.map_singleton, String.ofList_toList]
    rfl
  exact hbound ▸ binds_plain hplain

/-- The line that imports the client binds its class. -/
theorem binds_clientImport {name : String} (h : Text.isIdentifier name = true) :
    Binds [line ("from .client import " ++ name)] [name] := by
  have hname := Text.isPlain_of_isIdentifier h
  have hplain : IsPlain ("from .client import " ++ name) :=
    IsPlain.append (isPlain_ofList (by decide)) hname
  have hbound : boundInLine ("from .client import " ++ name).toList = [name] := by
    have hchars : ("from .client import " ++ name).toList =
        ['f', 'r', 'o', 'm'] ++ ' ' :: (".client import ".toList ++ name.toList) := by
      rw [String.toList_append]
      rfl
    have hwords : (namesIn ".client import ".toList).map String.ofList = ["client", "import"] := by
      decide
    rw [hchars, Text.boundInLine_word (by decide) (by decide) (by decide),
      Text.namesIn_append_of_getLast (by decide), namesIn_of_isIdentifier h, List.map_append,
      hwords, List.map_singleton, String.ofList_toList]
    rfl
  exact hbound ▸ binds_plain hplain

theorem RouterContext.isPlain_className (router : RouterContext) : IsPlain router.className := by
  have hpascal : IsPlain (Naming.pascal router.nspace) := fun c hc ↦
    Text.isPlainChar_of_ascii (p := Char.isAlphanum) (by decide)
      (Naming.isAlphanum_of_mem_pascal hc)
  have hunderscore : IsPlain "_" := by decide
  exact (hunderscore.append hpascal).append (by decide)

theorem isIdentifier_className (router : RouterContext) :
    Text.isIdentifier router.className = true := by
  have hchars : router.className.toList =
      ['_'] ++ ((Naming.pascal router.nspace).toList ++ "Resource".toList) := by
    rw [RouterContext.className, String.toList_append, String.toList_append, List.append_assoc]
    rfl
  rw [Text.isIdentifier, hchars]
  refine Text.isIdentifierChars_append (by decide) fun c hc ↦ ?_
  have hword : c.isAlphanum = true := by
    rcases List.mem_append.mp hc with hc | hc
    · exact Naming.isAlphanum_of_mem_pascal hc
    · exact List.all_eq_true.mp (show "Resource".toList.all Char.isAlphanum = true by decide) c hc
  have hpart : (c.isAlphanum || c == '_') = true := by rw [hword, Bool.true_or]
  exact Text.isIdentifierContinue_of_ascii (Text.toNat_lt_of_isAlphanum hpart) hpart

/-! ## The module of the client -/

theorem isPlain_methodParams {method : ClientMethod} (h : method.IsClean) :
    IsPlain (methodParams method) := by
  have hparams : ∀ entries : Named String, entries.HoldsPlain →
      IsPlain (String.join (entries.map fun entry ↦ entry.2 ++ ": Any, ")) := by
    intro entries hentries
    induction entries with
    | nil => decide
    | cons entry rest ih =>
      obtain ⟨hfirst, hrest⟩ := List.forall_mem_cons.mp hentries
      have hany : IsPlain ": Any, " := by decide
      rw [List.map_cons, String.join_cons]
      exact (hfirst.append hany).append (ih hrest)
  exact hparams method.params h.params

theorem valueEntries_isWhole {entries : Named String} (h : entries.HoldsPlain) :
    IsWhole (valueEntries entries) := by
  have hcolon : IsPlain ": " := by decide
  have hcomma : IsPlain ", " := by decide
  have hbegins (text : String) : beginsCode [.code (": " ++ text)] = true := by
    rw [beginsCode, String.toList_append]
    rfl
  induction entries with
  | nil => exact isWhole_nil
  | cons entry rest ih =>
    obtain ⟨name, parameter⟩ := entry
    obtain ⟨hparameter, hrest⟩ := List.forall_mem_cons.mp h
    cases rest with
    | nil => exact (isWhole_code (hcolon.append hparameter)).quoted (hbegins parameter) name
    | cons second others =>
      have hcode : IsPlain (": " ++ parameter ++ ", ") := (hcolon.append hparameter).append hcomma
      have hfirst := (isWhole_code hcode).quoted (String.append_assoc ▸ hbegins _) name
      exact hfirst.append (ih hrest)

theorem isPlain_signature {method : ClientMethod} (h : method.IsClean) :
    IsPlain ("    async def " ++ method.function ++ "(self, " ++ methodParams method ++
      "*, query: Optional[dict[str, Any]] = None, data: Any = None) -> Any:") := by
  have hstart : IsPlain ("    async def " ++ method.function ++ "(self, ") :=
    IsPlain.append (IsPlain.append (by decide) h.function) (by decide)
  exact (hstart.append (isPlain_methodParams h)).append (isPlain_ofList (by decide))

/-- The line that fills a path in, up to its end. -/
theorem expandSource_isWhole {method : ClientMethod} (h : method.IsClean) :
    IsWhole ([.code "        path = _expand(", .quoted method.path, .code ", \x7b"] ++
      valueEntries method.params) := by
  have hexpand : IsPlain "        path = _expand(" := by decide
  have hvalues : IsPlain ", \x7b" := by decide
  have hcall := (isWhole_code hexpand).append ((isWhole_code hvalues).quoted rfl method.path)
  exact hcall.append (valueEntries_isWhole h.params)

theorem not_mem_lineEnd_valueEntries {entries : Named String} (h : entries.HoldsPlain) :
    '\n' ∉ (Source.blank (valueEntries entries)).render.toList := by
  have hquoted : '\n' ∉ (Chunk.quoted "").render.toList := by decide
  induction entries with
  | nil => decide
  | cons entry rest ih =>
    obtain ⟨name, parameter⟩ := entry
    obtain ⟨hparameter, hrest⟩ := List.forall_mem_cons.mp h
    have hplain : IsPlain (": " ++ parameter) := IsPlain.append (by decide) hparameter
    cases rest with
    | nil =>
      rw [valueEntries, Source.blank, List.map_cons, List.map_cons, List.map_nil, render_cons,
        render_cons, Chunk.blank, Chunk.blank]
      simp only [List.mem_append, not_or]
      exact ⟨hquoted, hplain.not_mem_lineEnd, by decide⟩
    | cons second others =>
      have hcode : IsPlain (": " ++ parameter ++ ", ") := hplain.append (by decide)
      have hblank : Source.blank (valueEntries ((name, parameter) :: second :: others)) =
          [.quoted "", .code (": " ++ parameter ++ ", ")] ++
            Source.blank (valueEntries (second :: others)) := by
        rw [valueEntries, Source.blank, List.map_append]
        · rfl
        · exact List.cons_ne_nil _ _
      rw [hblank, render_append, render_cons, render_cons]
      simp only [List.mem_append, not_or]
      exact ⟨⟨hquoted, hcode.not_mem_lineEnd, by decide⟩, ih hrest⟩

/-- The line that fills a path in binds nothing. -/
theorem expandSource_binds {method : ClientMethod} (h : method.IsClean) :
    Binds ([.code "        path = _expand(", .quoted method.path, .code ", \x7b"] ++
      valueEntries method.params ++ [line "\x7d)"]) [] := by
  have hbare : Source.blank ([.code "        path = _expand(", .quoted method.path,
      .code ", \x7b"] ++ valueEntries method.params) =
      [.code "        path = _expand(", .quoted "", .code ", \x7b"] ++
        Source.blank (valueEntries method.params) :=
    List.map_append
  have hquoted : '\n' ∉ (Chunk.quoted "").render.toList := by decide
  refine binds_line_of_head (expandSource_isWhole h) (by decide) ?_ ?_
  · rw [hbare, String.toList_append, render_append, render_cons, render_cons, render_cons]
    simp only [List.mem_append, not_or]
    exact ⟨⟨⟨by decide, hquoted, by decide, by decide⟩, not_mem_lineEnd_valueEntries h.params⟩,
      by decide⟩
  · rw [hbare, String.toList_append, List.cons_append, render_cons]
    rfl

theorem methodSource_binds {method : ClientMethod} (h : method.IsClean) :
    Binds (methodSource method) [] := by
  have hsignature := binds_text_of_head (isPlain_signature h).isLine (by
    simp only [String.toList_append, List.append_assoc]
    rfl)
  have hdoc : Binds [.code "        \"\"\"", .doc method.description, line "\"\"\""] [] := by
    refine binds_of_render_of_head (spans_doc (by decide) spans_docEnd _)
      (show IsLine "        \"\"\"\"\"\"" from Text.isLine_ofList (by decide)) ?_ (by decide)
    show (Source.render [.code "        \"\"\"", .doc "", line "\"\"\""]).toList = _
    decide
  have hexpand := expandSource_binds h
  have hreturn : IsPlain "        return await self._api.request(" := isPlain_ofList (by decide)
  have harguments : IsPlain ", path, query=query, data=data)" := isPlain_ofList (by decide)
  have hrequest := binds_quoted hreturn harguments (by decide) (by decide) method.httpMethod
  have hall := binds_blank.append (hsignature.append (hdoc.append (hexpand.append hrequest)))
  simp only [methodSource, List.append_assoc, List.cons_append, List.nil_append] at hall ⊢
  exact hall

theorem resourceSource_binds {apiName : String} (hname : Text.isIdentifier apiName = true)
    {router : RouterContext} (h : router.IsClean) :
    Binds (resourceSource apiName router) [router.className] := by
  have hclass := binds_class (isIdentifier_className router)
  have hinit : Binds [line ("    def __init__(self, api: \"" ++ apiName ++ "\") -> None:")] [] := by
    refine binds_text_of_head (isLine_around hname (by decide) (by decide)) ?_
    rw [head?_append_append (by decide)]
    decide
  have hapi : Binds [line "        self._api = api"] [] := by
    exact binds_ofList_of_head (by decide) (by decide)
  have hmethods := binds_flatMap_nil fun method hmethod ↦
    methodSource_binds (h.methods method hmethod)
  exact ((binds_blank.append (hclass.append (hinit.append hapi))).append hmethods).append
    binds_blank

/-- The names that the module of the client binds before the classes of resources. -/
def clientHeadNames : List String :=
  ["re", "Any", "Optional", "quote", "httpx", "to_jsonable_python", "_PATH_PARAM", "_expand"]

theorem clientHead_binds (context : Context) : Binds (clientHead context) clientHeadNames := by
  have hdoc : Binds ([.code "\"\"\"REST client for "] ++ ([.doc context.title] ++ [line "."] ++
      [line ""] ++ [line "One namespace per resource; each method maps to a single upstream"] ++
      [.code "operation. Generated by routergen from "] ++ [.doc context.sourceUrl] ++
      [line "; do not edit."]) ++ [line "\"\"\""]) [] := by
    have hurl : IsPlain "operation. Generated by routergen from " := isPlain_ofList (by decide)
    have hpurpose : IsPlain "One namespace per resource; each method maps to a single upstream" :=
      isPlain_ofList (by decide)
    have hdot : IsPlain "." := by decide
    have hempty : IsPlain "" := by decide
    have hedit : IsPlain "; do not edit." := by decide
    refine binds_documentation (isOpening_code (by decide)) ?_
    exact ((((((isDoc_doc _).append (isDoc_line hdot.staysIn_long)).append
      (isDoc_line hempty.staysIn_long)).append (isDoc_line hpurpose.staysIn_long)).append
        (isDoc_code hurl.staysIn_long)).append (isDoc_doc _)).append
          (isDoc_line hedit.staysIn_long)
  have himports : Binds (lines ["", "import re", "from typing import Any, Optional",
      "from urllib.parse import quote", "", "import httpx",
      "from pydantic_core import to_jsonable_python", ""])
      ["re", "Any", "Optional", "quote", "httpx", "to_jsonable_python"] :=
    binds_fixedLines [_, _, _, _, _, _, _, _] (by decide)
  have hexpand : Binds (lines ["_PATH_PARAM = re.compile(r\"\\\x7b([^\x7d]+)\\\x7d\")", "", "",
      "def _expand(path: str, values: dict[str, Any]) -> str:",
      "    \"\"\"Substitute \x7bname\x7d templates with URL-quoted values.\"\"\"",
      "    return _PATH_PARAM.sub(lambda m: quote(str(values[m.group(1)]), safe=\"\"), path)", ""])
      ["_PATH_PARAM", "_expand"] :=
    binds_fixedLines [_, _, _, _, _, _, _] (by decide)
  exact hdoc.append (himports.append hexpand)

theorem clientStart_binds {apiName : String} (hname : Text.isIdentifier apiName = true) :
    Binds (clientStart apiName) [apiName] := by
  have hbody : Binds (lines
      ["    \"\"\"Async client over httpx; raises httpx.HTTPStatusError on non-2xx.\"\"\"", "",
        "    def __init__(",
        "        self,",
        "        base_url: str = \"\",",
        "        headers: Optional[dict[str, str]] = None,",
        "        timeout: float = 30.0,",
        "        transport: Optional[httpx.AsyncBaseTransport] = None,",
        "    ) -> None:",
        "        self._client = httpx.AsyncClient(",
        "            base_url=base_url,",
        "            headers=headers,",
        "            timeout=timeout,",
        "            transport=transport,",
        "        )"]) [] :=
    binds_fixedLines [_, _, _, _, _, _, _, _, _, _, _, _, _, _, _] (by decide)
  exact binds_blank.append ((binds_class hname).append hbody)

theorem clientEnd_binds {apiName : String} (hname : Text.isIdentifier apiName = true) :
    Binds (clientEnd apiName) [] := by
  have hparams : Binds [line
      ("            params = \x7bk: v for k, v in to_jsonable_python(query).items() " ++
        "if v is not None\x7d")] [] := by
    have hstart :
        IsPlain "            params = \x7bk: v for k, v in to_jsonable_python(query).items() " :=
      isPlain_ofList (by decide)
    have hend : IsPlain "if v is not None\x7d" := by decide
    refine binds_text_of_head (hstart.append hend).isLine ?_
    rw [String.toList_append]
    rfl
  have henter : Binds [line ("    async def __aenter__(self) -> \"" ++ apiName ++ "\":")] [] := by
    refine binds_text_of_head (isLine_around hname (by decide) (by decide)) ?_
    rw [head?_append_append (by decide)]
    decide
  refine binds_map_line ?_
  simp only [List.forall_mem_cons, hparams, henter, true_and]
  and_intros
  all_goals first | exact binds_ofList_of_head (by decide) (by decide) | exact nofun

theorem isPlain_attribute (h : IsPlain router.nspace) :
    IsPlain ("        self." ++ router.nspace ++ " = " ++ router.className ++ "(self)") := by
  have hself : IsPlain ("        self." ++ router.nspace ++ " = ") :=
    IsPlain.append (IsPlain.append (by decide) h) (by decide)
  exact (hself.append router.isPlain_className).append (by decide)

/-- The names that the module of the client binds beside the client. -/
def Context.clientNames (context : Context) : List String :=
  clientHeadNames ++ context.routers.map RouterContext.className

theorem clientSource_binds (h : context.IsClean) :
    Binds (clientSource context) (context.clientNames ++ [context.apiName]) := by
  have hresources : Binds (context.routers.flatMap (resourceSource context.apiName))
      (context.routers.map RouterContext.className) := by
    rw [List.map_eq_flatMap]
    exact binds_flatMap fun router hrouter ↦
      resourceSource_binds h.apiName (h.routers router hrouter)
  have hattributes : Binds (context.routers.map resourceAttribute) [] := by
    refine binds_map_line fun router hrouter ↦ ?_
    refine binds_text_of_head (isPlain_attribute (h.routers router hrouter).nspace).isLine ?_
    simp only [String.toList_append, List.append_assoc]
    rfl
  have hall := ((((clientHead_binds context).append hresources).append
    (clientStart_binds h.apiName)).append hattributes).append (clientEnd_binds h.apiName)
  rwa [List.append_nil, List.append_nil] at hall

/-! ## The modules that import the client -/

/-- The names that the module of the request context binds before it imports the client. -/
def contextImports : List String :=
  ["os", "dataclass", "Any", "AsyncIterator", "Optional", "Request"]

/-- The names that the module of the request context binds behind that. -/
def contextDefinitions : List String :=
  ["Context", "get_session", "create_context"]

theorem contextSource_binds (hname : Text.isIdentifier context.apiName = true) :
    Binds (contextSource context) (contextImports ++ context.apiName :: contextDefinitions) := by
  have hplain := Text.isPlain_of_isIdentifier hname
  have hdoc : Binds ([line "\"\"\"Request context for the generated procedures."] ++ ([line ""] ++
      [line "Binds the caller's session and a REST client configured from"] ++
      [line "API_BASE_URL. Generated by routergen; do not edit."]) ++ [line "\"\"\""]) [] := by
    refine binds_documentation (isOpening_line (by decide)) (.append (.append ?_ ?_) ?_)
    all_goals exact isDoc_ofList (by decide)
  have himports : Binds (lines ["", "import os", "from dataclasses import dataclass",
      "from typing import Any, AsyncIterator, Optional", "", "from fastapi import Request", ""])
      ["os", "dataclass", "Any", "AsyncIterator", "Optional", "Request"] :=
    binds_fixedLines [_, _, _, _, _, _, _] (by decide)
  have hclass : Binds (lines ["", "", "@dataclass", "class Context:",
      "    request: Optional[Request]", "    session: Optional[dict[str, Any]]"])
      ["Context"] :=
    binds_fixedLines [_, _, _, _, _, _] (by decide)
  have hapi : Binds [line ("    api: " ++ context.apiName)] [] := by
    have hstart : IsPlain "    api: " := by decide
    refine binds_text_of_head (hstart.append hplain).isLine ?_
    rw [String.toList_append]
    rfl
  have hfunctions : Binds (lines ["", "",
      "def get_session(request: Request) -> Optional[dict[str, Any]]:",
      "    \"\"\"Session stored by Starlette's SessionMiddleware, if one is installed.\"\"\"",
      "    return request.scope.get(\"session\")", "", "",
      "async def create_context(request: Request) -> AsyncIterator[Context]:",
      "    \"\"\"FastAPI dependency yielding the context; closes the client afterwards.\"\"\""])
      ["get_session", "create_context"] :=
    binds_fixedLines [_, _, _, _, _, _, _, _, _] (by decide)
  have hcall : Binds [line ("    api = " ++ context.apiName ++
      "(base_url=os.environ.get(\"API_BASE_URL\", \"\"))")] [] := by
    have hstart : IsPlain "    api = " := by decide
    have hrest : Text.IsSnippet "(base_url=os.environ.get(\"API_BASE_URL\", \"\"))" :=
      Text.isSnippet_ofList (by decide) (by decide)
    refine binds_text_of_head ⟨((hstart.append hplain).isSnippet.append hrest).isClosed, ?_⟩ ?_
    · simp only [String.toList_append, List.mem_append, not_or]
      exact ⟨⟨by decide, hplain.not_mem_lineEnd⟩, by decide⟩
    · rw [head?_append_append (by decide)]
      decide
  have hbody : Binds (lines ["    try:",
      "        yield Context(request=request, session=get_session(request), api=api)",
      "    finally:", "        await api.aclose()"]) [] :=
    binds_fixedLines [_, _, _, _] (by decide)
  exact hdoc.append (himports.append ((binds_clientImport hname).append (hclass.append
    (hapi.append (hfunctions.append (hcall.append hbody))))))

/-- The names that the package binds before it imports the client. -/
def packageImports : List String :=
  ["FastAPI"]

/-- The names that the package binds behind that. -/
def packageDefinitions : List String :=
  ["ROUTERS", "AppRouter", "app_router", "create_app", "__all__"]

theorem packageSource_binds (hname : Text.isIdentifier context.apiName = true) :
    Binds (packageSource context) (packageImports ++ context.apiName :: packageDefinitions) := by
  have hdoc : Binds ([.code "\"\"\"Procedure routers for "] ++ ([.doc context.title] ++
      [line "."] ++ [line ""] ++ [.code "Generated by routergen from "] ++
      [.doc context.sourceUrl] ++ [line "; do not edit."] ++
      [line (toString context.routers.length ++ " routers, " ++
        toString context.procedureCount ++ " procedures.")]) ++ [line "\"\"\""]) [] := by
    have hurl : IsPlain "Generated by routergen from " := isPlain_ofList (by decide)
    have hdot : IsPlain "." := by decide
    have hempty : IsPlain "" := by decide
    have hedit : IsPlain "; do not edit." := by decide
    have hcounts : IsPlain (toString context.routers.length ++ " routers, " ++
        toString context.procedureCount ++ " procedures.") :=
      (((Text.isPlain_toString _).append (by decide)).append (Text.isPlain_toString _)).append
        (by decide)
    refine binds_documentation (isOpening_code (by decide)) ?_
    exact ((((((isDoc_doc _).append (isDoc_line hdot.staysIn_long)).append
      (isDoc_line hempty.staysIn_long)).append (isDoc_code hurl.staysIn_long)).append
        (isDoc_doc _)).append (isDoc_line hedit.staysIn_long)).append
          (isDoc_line hcounts.staysIn_long)
  have himport : Binds (lines ["", "from fastapi import FastAPI", ""]) ["FastAPI"] :=
    binds_fixedLines [_, _, _] (by decide)
  have hrouters : Binds (lines ["from .routers import ROUTERS, AppRouter, app_router", "", "",
      "def create_app(prefix: str = \"\") -> FastAPI:",
      "    \"\"\"FastAPI application serving every procedure under prefix.\"\"\""])
      ["ROUTERS", "AppRouter", "app_router", "create_app"] :=
    binds_fixedLines [_, _, _, _, _] (by decide)
  have hstart : IsPlain "    app = FastAPI(title=" := by decide
  have happ := binds_quoted hstart (show IsPlain ")" by decide) rfl (by decide) context.title
  have hbody : Binds (lines ["    app.include_router(app_router, prefix=prefix)", "    return app",
      "", ""]) [] :=
    binds_fixedLines [_, _, _, _] (by decide)
  have hexports : Binds [line ("__all__ = [\"" ++ context.apiName ++
      "\", \"ROUTERS\", \"AppRouter\", \"app_router\", \"create_app\"]")] ["__all__"] := by
    let rest := "\", \"ROUTERS\", \"AppRouter\", \"app_router\", \"create_app\"]"
    have hline : IsLine ("__all__ = [\"" ++ context.apiName ++ rest) :=
      isLine_around hname (by decide) (by decide)
    have hblanked : code.blanked "__all__ = [\"".toList =
        ['_', '_', 'a', 'l', 'l', '_', '_'] ++ ' ' :: ['=', ' ', '[', '"'] := by
      decide
    have hbound :
        boundInLine (code.blanked ("__all__ = [\"" ++ context.apiName ++ rest).toList) =
          ["__all__"] := by
      rw [String.append_assoc, String.toList_append, blanked_append, hblanked, List.append_assoc]
      exact Text.boundInLine_word (by decide) (by decide) (by decide) _
    exact hbound ▸ binds_text hline
  exact hdoc.append (himport.append ((binds_clientImport hname).append (hrouters.append
    (happ.append (hbody.append hexports)))))

end ApiCompiler.Package
