import ApiCompiler.Package.Context

/-!
# The client as source

One class for each resource, with one method for each operation, and the client class that holds an
instance of each of them.
-/

namespace ApiCompiler.Package

/-- The parameters of a client method for its path parameters. -/
def methodParams (method : ClientMethod) : String :=
  String.join (method.params.map fun (_, parameter) ↦ parameter ++ ": Any, ")

/-- The mapping from path parameters to the parameters of a client method. -/
def valueEntries : Named String → Source
  | [] => []
  | [(name, parameter)] => [.quoted name, .code (": " ++ parameter)]
  | (name, parameter) :: rest =>
    [.quoted name, .code (": " ++ parameter ++ ", ")] ++ valueEntries rest

/-- A method of a resource class. -/
def methodSource (method : ClientMethod) : Source :=
  [line "",
    line ("    async def " ++ method.function ++ "(self, " ++ methodParams method ++
      "*, query: Optional[dict[str, Any]] = None, data: Any = None) -> Any:"),
    .code "        \"\"\"", .doc method.description, line "\"\"\"",
    .code "        path = _expand(", .quoted method.path, .code ", \x7b"] ++
    valueEntries method.params ++
    [line "\x7d)",
      .code "        return await self._api.request(", .quoted method.httpMethod,
      line ", path, query=query, data=data)"]

/-- The class of a resource. -/
def resourceSource (apiName : String) (router : RouterContext) : Source :=
  lines ["", "class " ++ router.className ++ ":",
      "    def __init__(self, api: \"" ++ apiName ++ "\") -> None:",
      "        self._api = api"] ++
    router.methods.flatMap methodSource ++ [line ""]

/-- The head of the module. -/
def clientHead (context : Context) : Source :=
  [.code "\"\"\"REST client for ", .doc context.title, line ".", line "",
    line "One namespace per resource; each method maps to a single upstream",
    .code "operation. Generated by routergen from ", .doc context.sourceUrl,
    line "; do not edit."] ++
  lines ["\"\"\"", "", "import re", "from typing import Any, Optional",
    "from urllib.parse import quote", "", "import httpx",
    "from pydantic_core import to_jsonable_python", "",
    "_PATH_PARAM = re.compile(r\"\\\x7b([^\x7d]+)\\\x7d\")", "", "",
    "def _expand(path: str, values: dict[str, Any]) -> str:",
    "    \"\"\"Substitute \x7bname\x7d templates with URL-quoted values.\"\"\"",
    "    return _PATH_PARAM.sub(lambda m: quote(str(values[m.group(1)]), safe=\"\"), path)", ""]

/-- The start of the client class, up to the resources. -/
def clientStart (apiName : String) : Source :=
  lines ["", "class " ++ apiName ++ ":",
    "    \"\"\"Async client over httpx; raises httpx.HTTPStatusError on non-2xx.\"\"\"", "",
    "    def __init__(",
    "        self,",
    "        base_url: str = \"\",",
    "        headers: Optional[dict[str, str]] = None,",
    "        timeout: float = 30.0,",
    "        transport: Optional[httpx.AsyncBaseTransport] = None,",
    "    ) -> None:",
    "        self._client = httpx.AsyncClient(",
    "            base_url=base_url,",
    "            headers=headers,",
    "            timeout=timeout,",
    "            transport=transport,",
    "        )"]

/-- The attribute of the client for a resource. -/
def resourceAttribute (router : RouterContext) : Chunk :=
  line ("        self." ++ router.nspace ++ " = " ++ router.className ++ "(self)")

/-- The rest of the client class. -/
def clientEnd (apiName : String) : Source :=
  lines ["",
    "    async def request(",
    "        self,",
    "        method: str,",
    "        path: str,",
    "        query: Optional[dict[str, Any]] = None,",
    "        data: Any = None,",
    "    ) -> Any:",
    "        \"\"\"Send one request and decode the response body.\"\"\"",
    "        params = None",
    "        if query:",
    "            params = \x7bk: v for k, v in to_jsonable_python(query).items() " ++
      "if v is not None\x7d",
    "        body = None",
    "        if data is not None:",
    "            body = to_jsonable_python(data, by_alias=True, exclude_none=True)",
    "        resp = await self._client.request(method, path, params=params, json=body)",
    "        resp.raise_for_status()",
    "        if not resp.content:",
    "            return None",
    "        if \"json\" in resp.headers.get(\"content-type\", \"\"):",
    "            return resp.json()",
    "        return resp.text",
    "",
    "    async def aclose(self) -> None:",
    "        await self._client.aclose()",
    "",
    "    async def __aenter__(self) -> \"" ++ apiName ++ "\":",
    "        return self",
    "",
    "    async def __aexit__(self, *exc_info: Any) -> None:",
    "        await self.aclose()"]

/-- The module of the client. -/
def clientSource (context : Context) : Source :=
  clientHead context ++ context.routers.flatMap (resourceSource context.apiName) ++
    clientStart context.apiName ++ context.routers.map resourceAttribute ++
    clientEnd context.apiName

end ApiCompiler.Package
