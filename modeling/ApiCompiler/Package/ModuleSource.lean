import ApiCompiler.Model
import ApiCompiler.Package.Context
import ApiCompiler.Package.Source

/-!
# Modules as source

The module of component schemas has its classes, then its aliases, and last the classes again,
because their annotations are evaluated when all of them exist. The module of a router has the models
of its inputs and results and one function for each procedure, which forwards to the client and turns
any failure into a protocol error. Other modules put the package together: the application factory,
the list of routers under their resource keys, and the re-exports beside them.
-/

namespace ApiCompiler.Package

/-! ## Classes -/

/-- The line that configures a model. -/
def configLine (model : Model) : String :=
  "    model_config = ConfigDict(regex_engine=\"python-re\"" ++
    (if model.hasAliases then ", populate_by_name=True" else "") ++ ")"

/-- The lines of the fields, or a line that does nothing. -/
def fieldLines (model : Model) : List String :=
  if model.fields.isEmpty then ["    pass"]
  else model.fields.map fun field ↦ "    " ++ field.line

/-- The class of a model with blank lines around it. -/
def modelSource (model : Model) : Source :=
  lines (["", "class " ++ model.name ++ "(BaseModel):", configLine model, ""] ++
    fieldLines model ++ [""])

/-! ## The module of component schemas -/

/-- The head of the module. -/
def componentHead (context : Context) : Source :=
  [.code "\"\"\"Component schemas of ", .doc context.title, line ".", line "",
    .code "Generated by routergen from ", .doc context.sourceUrl, line "; do not edit."] ++
  lines ["\"\"\"", "", "from __future__ import annotations", "",
    "from datetime import datetime",
    "from typing import Annotated, Any, Literal, Optional", "",
    "from pydantic import BaseModel, ConfigDict, Field", ""]

/-- The assignments of aliases. -/
def aliasSource (aliases : List Alias) : Source :=
  if aliases.isEmpty then []
  else line "" :: aliases.map fun a ↦ line (a.name ++ " = " ++ a.type.text)

/-- The loop that evaluates the annotations of the classes. -/
def rebuildSource (models : List Model) : Source :=
  if models.isEmpty then []
  else
    lines ["", "", "for _model in ("] ++ models.map (fun m ↦ line ("    " ++ m.name ++ ",")) ++
      lines ["):", "    _model.model_rebuild()"]

/-- The module of component schemas. -/
def componentSource (context : Context) : Source :=
  componentHead context ++ context.components.models.flatMap modelSource ++
    aliasSource context.components.aliases ++ rebuildSource context.components.models

/-! ## Routers -/

/-- The function of a procedure. -/
def endpointSource (e : Endpoint) : Source :=
  lines ["", e.decorator, "async def " ++ e.function ++ "(", "    " ++ e.inputParam ++ ",",
      "    ctx: Context = Depends(create_context),", "):"] ++
    [.code "    \"\"\"", .doc e.description, line "\"\"\"",
      line "    try:",
      line ("        return await " ++ e.call.text),
      line "    except Exception as error:",
      .code ("        raise " ++ e.errorClass ++ "("), .quoted e.errorMessage,
      line ") from error", line ""]

/-- The head of a router module. -/
def routerHead (context : Context) (router : RouterContext) : Source :=
  [.code "\"\"\"Procedures of the ", .doc router.name, line " resource.", line "",
    .code "Generated by routergen from ", .doc context.sourceUrl, line "; do not edit."] ++
  lines ["\"\"\"", "", "from datetime import datetime",
    "from typing import Annotated, Any, Literal, Optional", "",
    "from fastapi import APIRouter, Depends",
    "from pydantic import BaseModel, ConfigDict, Field", "",
    "from .. import schemas", "from ..context import Context, create_context",
    "from ..procedures import (",
    "    BadRequestError,",
    "    NotFoundError,",
    "    protected_procedure,",
    "    public_procedure,",
    "    query_input,",
    ")", ""] ++
  [.code "router = APIRouter(tags=[", .quoted router.name, line "])", line ""]

/-- The module of a router. -/
def routerSource (context : Context) (router : RouterContext) : Source :=
  routerHead context router ++ router.models.flatMap modelSource ++
    router.endpoints.flatMap endpointSource

/-! ## Index modules -/

/-- The module of the package itself. -/
def packageSource (context : Context) : Source :=
  [.code "\"\"\"Procedure routers for ", .doc context.title, line ".", line "",
    .code "Generated by routergen from ", .doc context.sourceUrl, line "; do not edit.",
    line (toString context.routers.length ++ " routers, " ++ toString context.procedureCount ++
      " procedures.")] ++
  lines ["\"\"\"", "", "from fastapi import FastAPI", "",
    "from .client import " ++ context.apiName,
    "from .routers import ROUTERS, AppRouter, app_router", "", "",
    "def create_app(prefix: str = \"\") -> FastAPI:",
    "    \"\"\"FastAPI application serving every procedure under prefix.\"\"\""] ++
  [.code "    app = FastAPI(title=", .quoted context.title, line ")"] ++
  lines ["    app.include_router(app_router, prefix=prefix)", "    return app", "", "",
    "__all__ = [\"" ++ context.apiName ++
      "\", \"ROUTERS\", \"AppRouter\", \"app_router\", \"create_app\"]"]

/-- The module of the routers. -/
def routersSource (context : Context) : Source :=
  [.code "\"\"\"Resource routers of ", .doc context.title,
    line ". Generated by routergen; do not edit.\"\"\""] ++
  lines ["", "from ._app import ROUTERS, AppRouter, app_router", "",
    "__all__ = [\"ROUTERS\", \"AppRouter\", \"app_router\"]"]

/-- The import of a router module. -/
def routerImport (router : RouterContext) : Chunk :=
  line ("from ." ++ router.nspace ++ " import router as " ++ router.nspace ++ "_router")

/-- An entry under a resource key. -/
def resourceEntry (router : RouterContext) (value : String) : Source :=
  [.code "    ", .quoted router.name, line (": " ++ value ++ ",")]

/-- The module that lists the routers. -/
def appSource (context : Context) : Source :=
  lines ["\"\"\"Aggregate router merging every resource router under its resource key.", ""] ++
  [.code "Generated by routergen from ", .doc context.sourceUrl, line "; do not edit."] ++
  lines ["\"\"\"", "", "from typing import TypedDict", "", "from fastapi import APIRouter", ""] ++
  context.routers.map routerImport ++
  lines ["", "AppRouter = TypedDict(\"AppRouter\", \x7b"] ++
  context.routers.flatMap (resourceEntry · "APIRouter") ++
  lines ["\x7d)", "", "ROUTERS: AppRouter = \x7b"] ++
  context.routers.flatMap (fun router ↦ resourceEntry router (router.nspace ++ "_router")) ++
  lines ["\x7d", "", "app_router = APIRouter()", "for _resource, _router in ROUTERS.items():",
    "    app_router.include_router(_router, prefix=f\"/\x7b_resource\x7d\")"]

end ApiCompiler.Package
