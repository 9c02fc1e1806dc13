import ApiCompiler.Proofs.Package.Bindings

/-!
# The files of a clean context

Every file of a package is scanned from code to code when its context is clean: each template opens
a literal around the free texts that it writes, closes it again, and writes nothing else but plain
names and pieces of code of their own.
-/

namespace ApiCompiler.Package

open Text (Place IsPlain IsSnippet IsClosed isClosed_append_ofList isClosed_fixedLines
  isClosed_ofList isPlain_ofList)
open Text.Place
open Source

/-! ## Documentation of modules -/

/-- A line of plain text stays inside of the documentation of a module. -/
theorem spans_plainLine {text : String} (h : IsPlain text) :
    Spans (long '"' false 0) [line text] (long '"' false 0) := by
  rw [Spans, line, scan, String.toList_append, after_append, h.after_long]
  rfl

/-- The first line of a documentation, which a free text follows. -/
theorem spans_titleLine {start : List Char} {rest : String}
    (hstart : code.after start = long '"' false 0) (hrest : IsPlain rest) (text : String) :
    Spans code [.code (String.ofList start), .doc text, line rest, line ""] (long '"' false 0) := by
  have hempty : IsPlain "" := by decide
  exact spans_doc hstart ((spans_plainLine hrest).append (spans_plainLine hempty)) text

/-- The line of a documentation that names the origin of a file. -/
theorem spans_originLine {start : List Char} (hstart : start.all Text.isPlainChar = true)
    (url : String) :
    Spans (long '"' false 0) [.code (String.ofList start), .doc url, line "; do not edit."]
      (long '"' false 0) := by
  have hplain := (isPlain_ofList hstart).after_long
  rw [String.toList_ofList] at hplain
  have hend : IsPlain "; do not edit." := by decide
  exact spans_doc hplain (spans_plainLine hend) url

/-! ## Classes and component schemas -/

variable {context : Context} {router : RouterContext}

theorem modelSource_isWhole {model : Model} (h : model.IsClean) :
    IsWhole (modelSource model) := by
  have hclass : IsClosed ("class " ++ model.name ++ "(BaseModel):") :=
    isClosed_between (by decide) h.name (by decide)
  have hconfig : IsClosed (configLine model) := by
    have hstart : IsClosed "    model_config = ConfigDict(regex_engine=\"python-re\"" :=
      isClosed_ofList (by decide)
    have haliases : IsPlain (if model.hasAliases then ", populate_by_name=True" else "") := by
      split <;> decide
    have hend : IsPlain ")" := by decide
    exact (hstart.append haliases.isSnippet).append hend.isSnippet
  have hfields : ∀ text ∈ fieldLines model, IsClosed text := by
    unfold fieldLines
    split
    · decide
    · refine List.forall_mem_map.mpr fun field hfield ↦ ?_
      have hindent : IsPlain "    " := by decide
      obtain ⟨hname, htype⟩ := h.fields field hfield
      exact (hindent.isSnippet.append (ModelField.isSnippet_line hname htype)).isClosed
  refine isWhole_lines (List.forall_mem_append.mpr ⟨List.forall_mem_append.mpr ⟨?_, hfields⟩, ?_⟩)
  · simp only [List.forall_mem_cons, hclass, hconfig, true_and]
    decide
  · decide

theorem componentHead_isWhole (context : Context) : IsWhole (componentHead context) := by
  have hdot : IsPlain "." := by decide
  exact ((spans_titleLine (by decide) hdot context.title).append
    (spans_originLine (by decide) context.sourceUrl)).append
      (spans_lines_of_long (isClosed_fixedLines [_, _, _, _, _, _, _, _] (by decide)))

theorem componentSource_isWhole (h : context.components.IsClean) :
    IsWhole (componentSource context) := by
  have hmodels := isWhole_flatMap fun model hmodel ↦ modelSource_isWhole (h.models model hmodel)
  have haliases : IsWhole (aliasSource context.components.aliases) := by
    unfold aliasSource
    split
    · exact isWhole_nil
    · have hline : IsWhole [line ""] := by decide
      refine hline.append (isWhole_map_line fun a ha ↦ ?_)
      have hequals : IsPlain " = " := by decide
      obtain ⟨hname, htype⟩ := h.aliases a ha
      exact ((hname.append hequals).isSnippet.append htype).isClosed
  have hrebuild : IsWhole (rebuildSource context.components.models) := by
    unfold rebuildSource
    split
    · exact isWhole_nil
    · have hstart : IsWhole (lines ["", "", "for _model in ("]) := by decide
      have hend : IsWhole (lines ["):", "    _model.model_rebuild()"]) := by decide
      refine (hstart.append (isWhole_map_line fun model hmodel ↦ ?_)).append hend
      exact isClosed_between (by decide) (h.models model hmodel).name (by decide)
  exact (((componentHead_isWhole context).append hmodels).append haliases).append hrebuild

/-! ## Routers -/

theorem Endpoint.isClosed_decorator {e : Endpoint} (h : e.IsClean) : IsClosed e.decorator := by
  have hstart : IsPlain ("@" ++ e.access ++ "_procedure." ++ e.kind ++ "(router, ") := by
    unfold Endpoint.access Endpoint.kind
    split <;> decide
  have hne : "@" ++ e.access ++ "_procedure." ++ e.kind ++ "(router, " ≠ "" := by
    unfold Endpoint.access Endpoint.kind
    split <;> decide
  have hclose : IsPlain ")" := by decide
  have hmodel : IsSnippet (e.responseModel?.elim "" fun model ↦ ", response_model=" ++ model) := by
    have hempty : IsPlain "" := by decide
    have hkeyword : IsPlain ", response_model=" := by decide
    unfold Endpoint.responseModel?
    split
    · exact hempty.isSnippet
    · exact hkeyword.isSnippet.append h.response
  have hname := hstart.append_closed hne (Text.isClosed_literal e.name)
  exact ((hname.append hmodel).append hclose.isSnippet).isClosed

theorem Endpoint.isPlain_inputParam {e : Endpoint} (h : e.IsClean) : IsPlain e.inputParam := by
  have hinput : IsPlain "input: " := by decide
  refine (hinput.append h.inputModel).append ?_
  split
  · have hquery : IsPlain " = Depends(query_input(" := by decide
    have hclose : IsPlain "))" := by decide
    exact (hquery.append h.inputModel).append hclose
  · decide

theorem endpointSource_isWhole {e : Endpoint} (h : e.IsClean) : IsWhole (endpointSource e) := by
  have hfunction : IsClosed ("async def " ++ e.function ++ "(") :=
    isClosed_between (by decide) h.function (by decide)
  have hinput : IsClosed ("    " ++ e.inputParam ++ ",") :=
    isClosed_between (by decide) (Endpoint.isPlain_inputParam h) (by decide)
  have hhead : IsWhole (lines ["", e.decorator, "async def " ++ e.function ++ "(",
      "    " ++ e.inputParam ++ ",", "    ctx: Context = Depends(create_context),", "):"]) := by
    refine isWhole_lines ?_
    simp only [List.forall_mem_cons, Endpoint.isClosed_decorator h, hfunction, hinput, true_and]
    and_intros
    all_goals first | exact isClosed_ofList (by decide) | exact nofun
  have hdoc : IsWhole [.code "    \"\"\"", .doc e.description, line "\"\"\"", line "    try:"] := by
    have hend : IsWhole [line "    try:"] := by decide
    exact spans_doc (by decide) (spans_docEnd.append hend) e.description
  have hcall : IsWhole [line ("        return await " ++ e.call.text)] := by
    have hreturn : IsPlain "        return await " := by decide
    exact isWhole_line (hreturn.isSnippet.append h.call).isClosed
  have herror : IsWhole [line "    except Exception as error:",
      .code ("        raise " ++ e.errorClass ++ "("), .quoted e.errorMessage,
      line ") from error", line ""] := by
    have hexcept : IsWhole [line "    except Exception as error:"] :=
      isWhole_line (isClosed_ofList (by decide))
    have hclass : IsPlain e.errorClass := by
      unfold Endpoint.errorClass
      split <;> decide
    have hraise : IsPlain ("        raise " ++ e.errorClass ++ "(") :=
      IsPlain.append (IsPlain.append (by decide) hclass) (by decide)
    have hend : IsWhole [line ") from error", line ""] := by decide
    exact hexcept.append ((isWhole_code hraise).append (hend.quoted rfl e.errorMessage))
  exact hhead.append (hdoc.append (hcall.append herror))

theorem routerHead_isWhole (context : Context) (router : RouterContext) :
    IsWhole (routerHead context router) := by
  have hresource : IsPlain " resource." := by decide
  have htags : IsWhole [.code "router = APIRouter(tags=[", .quoted router.name, line "])",
      line ""] := by
    have hstart : IsPlain "router = APIRouter(tags=[" := isPlain_ofList (by decide)
    have hend : IsWhole [line "])", line ""] := by decide
    exact (isWhole_code hstart).append (hend.quoted rfl router.name)
  exact (((spans_titleLine (by decide) hresource router.name).append
    (spans_originLine (by decide) context.sourceUrl)).append
      (spans_lines_of_long (isClosed_fixedLines
        [_, _, _, _, _, _, _, _, _, _, _, _, _, _, _, _, _] (by decide)))).append htags

theorem routerSource_isWhole (h : router.IsClean) : IsWhole (routerSource context router) := by
  have hmodels := isWhole_flatMap fun model hmodel ↦ modelSource_isWhole (h.models model hmodel)
  have hendpoints := isWhole_flatMap fun e he ↦ endpointSource_isWhole (h.endpoints e he)
  exact ((routerHead_isWhole context router).append hmodels).append hendpoints

/-! ## Index modules and support modules -/

theorem routersSource_isWhole (context : Context) : IsWhole (routersSource context) := by
  have hdoc : IsWhole [.code "\"\"\"Resource routers of ", .doc context.title,
      line ". Generated by routergen; do not edit.\"\"\""] := by
    have hend : Spans (long '"' false 0) (lines [". Generated by routergen; do not edit.\"\"\""])
        code := spans_lines_cons code (by decide) rfl
    exact spans_doc (by decide) hend context.title
  exact hdoc.append (isWhole_lines (isClosed_fixedLines [_, _, _, _] (by decide)))

theorem resourceEntry_isWhole (router : RouterContext) {value : String} (hvalue : IsPlain value) :
    IsWhole (resourceEntry router value) := by
  have hindent : IsPlain "    " := by decide
  have htext : IsPlain (": " ++ value ++ ",") :=
    IsPlain.append (IsPlain.append (by decide) hvalue) (by decide)
  have hbegins : beginsCode [line (": " ++ value ++ ",")] = true := by
    rw [line, beginsCode, String.append_assoc, String.append_assoc, String.toList_append]
    rfl
  have hentry := (isWhole_line htext.isSnippet.isClosed).quoted hbegins router.name
  exact (isWhole_code hindent).append hentry

theorem appSource_isWhole (h : ∀ router ∈ context.routers, IsPlain router.nspace) :
    IsWhole (appSource context) := by
  have hdoc : Spans code
      (lines ["\"\"\"Aggregate router merging every resource router under its resource key.", ""])
      (long '"' false 0) :=
    spans_lines_cons (long '"' false 0) (by decide)
      (spans_lines_cons (long '"' false 0) (by decide) rfl)
  have horigin : Spans (long '"' false 0) [.code "Generated by routergen from ",
      .doc context.sourceUrl, line "; do not edit."] (long '"' false 0) :=
    spans_originLine (by decide) context.sourceUrl
  have hhead : Spans (long '"' false 0) (lines ["\"\"\"", "", "from typing import TypedDict", "",
      "from fastapi import APIRouter", ""]) code :=
    spans_lines_of_long (isClosed_fixedLines [_, _, _, _, _] (by decide))
  have himports : IsWhole (context.routers.map routerImport) := by
    refine isWhole_map_line fun router hrouter ↦ ?_
    have hnspace := h router hrouter
    have hfrom : IsPlain ("from ." ++ router.nspace ++ " import router as ") :=
      IsPlain.append (IsPlain.append (by decide) hnspace) (by decide)
    exact isClosed_between hfrom hnspace (by decide)
  have hstart : IsWhole (lines ["", "AppRouter = TypedDict(\"AppRouter\", \x7b"]) :=
    spans_lines_cons code rfl (spans_lines_cons code (by decide) rfl)
  have htypes : IsWhole (context.routers.flatMap (resourceEntry · "APIRouter")) :=
    isWhole_flatMap fun router _ ↦ resourceEntry_isWhole router (by decide)
  have hmiddle : IsWhole (lines ["\x7d)", "", "ROUTERS: AppRouter = \x7b"]) := by decide
  have hvalues : IsWhole (context.routers.flatMap fun router ↦
      resourceEntry router (router.nspace ++ "_router")) :=
    isWhole_flatMap fun router hrouter ↦
      resourceEntry_isWhole router ((h router hrouter).append (by decide))
  have hend : IsWhole (lines ["\x7d", "", "app_router = APIRouter()",
      "for _resource, _router in ROUTERS.items():",
      "    app_router.include_router(_router, prefix=f\"/\x7b_resource\x7d\")"]) :=
    isWhole_lines (isClosed_fixedLines [_, _, _, _, _] (by decide))
  have htable := (((hdoc.append horigin).append hhead).append himports).append hstart
  exact (((htable.append htypes).append hmiddle).append hvalues).append hend

theorem proceduresSource_isWhole : IsWhole proceduresSource := by
  have hdetail : IsClosed
      ("        super().__init__(self.http_status, detail=\x7b\"code\": " ++
        "self.code, \"message\": message\x7d)") :=
    isClosed_append_ofList (by decide) (by decide) (by decide)
  have hget : IsClosed
      ("        return router.get(f\"/\x7bname\x7d\", name=name, " ++
        "dependencies=self.dependencies, **kwargs)") :=
    isClosed_append_ofList (by decide) (by decide) (by decide)
  have hpost : IsClosed
      ("        return router.post(f\"/\x7bname\x7d\", name=name, " ++
        "dependencies=self.dependencies, **kwargs)") :=
    isClosed_append_ofList (by decide) (by decide) (by decide)
  refine isWhole_lines_of_take 6 ?_ ?_
  · simp only [List.take_succ_cons, List.take_zero]
    exact spans_lines_cons (long '"' false 0) (by decide)
      (spans_lines_cons (long '"' false 0) (by decide)
        (spans_lines_cons (long '"' false 0) (by decide)
          (spans_lines_cons (long '"' false 0) (by decide)
            (spans_lines_cons (long '"' false 0) (by decide)
              (spans_lines_cons code (by decide) rfl)))))
  · simp only [List.drop_succ_cons, List.drop_zero, List.forall_mem_cons, hdetail, hget, hpost,
      true_and]
    and_intros
    all_goals first | exact isClosed_ofList (by decide) | exact nofun

/-- Every file of a clean context is scanned from code to code. -/
theorem isWhole_of_mem_artifacts (h : context.IsClean) {a : Artifact} (ha : a ∈ artifacts context) :
    IsWhole a.source := by
  rw [artifacts, List.mem_append] at ha
  rcases ha with ha | ha
  · have hcommon : ∀ a ∈ commonArtifacts context, IsWhole a.source := by
      simp only [commonArtifacts, List.forall_mem_cons, (packageSource_binds h.apiName).isWhole,
        (clientSource_binds h).isWhole, componentSource_isWhole h.components,
        (contextSource_binds h.apiName).isWhole, proceduresSource_isWhole,
        routersSource_isWhole context,
        appSource_isWhole fun router hrouter ↦ (h.routers router hrouter).nspace, true_and]
      exact nofun
    exact hcommon a ha
  · obtain ⟨router, hrouter, rfl⟩ := List.mem_map.mp ha
    exact routerSource_isWhole (h.routers router hrouter)

end ApiCompiler.Package
