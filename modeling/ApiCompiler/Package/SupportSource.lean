import ApiCompiler.Package.Context

/-!
# Support modules as source

The modules that do not depend on the operations: the request context with its client, and the
procedure builders with the protocol errors.
-/

namespace ApiCompiler.Package

/-- The module of the request context. -/
def contextSource (context : Context) : Source :=
  lines [
    "\"\"\"Request context for the generated procedures.",
    "",
    "Binds the caller's session and a REST client configured from",
    "API_BASE_URL. Generated by routergen; do not edit.",
    "\"\"\"",
    "",
    "import os",
    "from dataclasses import dataclass",
    "from typing import Any, AsyncIterator, Optional",
    "",
    "from fastapi import Request",
    "",
    "from .client import " ++ context.apiName,
    "",
    "",
    "@dataclass",
    "class Context:",
    "    request: Optional[Request]",
    "    session: Optional[dict[str, Any]]",
    "    api: " ++ context.apiName,
    "",
    "",
    "def get_session(request: Request) -> Optional[dict[str, Any]]:",
    "    \"\"\"Session stored by Starlette's SessionMiddleware, if one is installed.\"\"\"",
    "    return request.scope.get(\"session\")",
    "",
    "",
    "async def create_context(request: Request) -> AsyncIterator[Context]:",
    "    \"\"\"FastAPI dependency yielding the context; closes the client afterwards.\"\"\"",
    "    api = " ++ context.apiName ++ "(base_url=os.environ.get(\"API_BASE_URL\", \"\"))",
    "    try:",
    "        yield Context(request=request, session=get_session(request), api=api)",
    "    finally:",
    "        await api.aclose()"]

/-- The module of procedure builders and protocol errors. -/
def proceduresSource : Source :=
  lines [
    "\"\"\"Procedure builders and protocol errors for the generated routers.",
    "",
    "A query is served as GET with its input JSON-encoded in ``?input=``;",
    "a mutation is served as POST with its input as the JSON body.",
    "Generated by routergen; do not edit.",
    "\"\"\"",
    "",
    "from typing import Any, Callable, Sequence, TypeVar",
    "",
    "from fastapi import APIRouter, Depends, HTTPException, Query",
    "from fastapi.exceptions import RequestValidationError",
    "from pydantic import BaseModel, ValidationError",
    "",
    "from .context import Context, create_context",
    "",
    "ModelT = TypeVar(\"ModelT\", bound=BaseModel)",
    "",
    "",
    "class ProcedureError(HTTPException):",
    "    code = \"INTERNAL_SERVER_ERROR\"",
    "    http_status = 500",
    "",
    "    def __init__(self, message: str) -> None:",
    "        super().__init__(self.http_status, detail=\x7b\"code\": " ++
      "self.code, \"message\": message\x7d)",
    "        self.message = message",
    "",
    "",
    "class NotFoundError(ProcedureError):",
    "    code = \"NOT_FOUND\"",
    "    http_status = 404",
    "",
    "",
    "class BadRequestError(ProcedureError):",
    "    code = \"BAD_REQUEST\"",
    "    http_status = 400",
    "",
    "",
    "class UnauthorizedError(ProcedureError):",
    "    code = \"UNAUTHORIZED\"",
    "    http_status = 401",
    "",
    "",
    "def query_input(model: type[ModelT]) -> Callable[..., ModelT]:",
    "    \"\"\"Dependency parsing a query's ``?input=`` JSON into model.\"\"\"",
    "",
    "    def parse(input: str = Query(default=\"\x7b\x7d\")) -> ModelT:",
    "        try:",
    "            return model.model_validate_json(input)",
    "        except ValidationError as exc:",
    "            raise RequestValidationError(exc.errors(include_url=False)) from exc",
    "",
    "    return parse",
    "",
    "",
    "class Procedure:",
    "    \"\"\"Registers endpoints on a router with a fixed set of dependencies.\"\"\"",
    "",
    "    def __init__(self, dependencies: Sequence[Any] = ()) -> None:",
    "        self.dependencies = list(dependencies)",
    "",
    "    def use(self, *dependencies: Any) -> \"Procedure\":",
    "        return Procedure([*self.dependencies, *dependencies])",
    "",
    "    def query(self, router: APIRouter, name: str, **kwargs: Any) -> Callable:",
    "        return router.get(f\"/\x7bname\x7d\", name=name, " ++
      "dependencies=self.dependencies, **kwargs)",
    "",
    "    def mutation(self, router: APIRouter, name: str, **kwargs: Any) -> Callable:",
    "        return router.post(f\"/\x7bname\x7d\", name=name, " ++
      "dependencies=self.dependencies, **kwargs)",
    "",
    "",
    "async def require_user(ctx: Context = Depends(create_context)) -> None:",
    "    session = ctx.session or \x7b\x7d",
    "    if not session.get(\"user\"):",
    "        raise UnauthorizedError(\"Not authenticated\")",
    "",
    "",
    "public_procedure = Procedure()",
    "protected_procedure = public_procedure.use(Depends(require_user))"]

end ApiCompiler.Package
