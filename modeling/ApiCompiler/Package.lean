import ApiCompiler.Package.ClientSource
import ApiCompiler.Package.ModuleSource
import ApiCompiler.Package.SupportSource

/-!
# The generated package

The files of a package: seven that every package has, and one module for each router.
-/

namespace ApiCompiler.Package

/-- The file of a router module. -/
def routerArtifact (context : Context) (router : RouterContext) : Artifact :=
  ⟨"routers/" ++ router.nspace ++ ".py", routerSource context router⟩

/-- The files that every package has. -/
def commonArtifacts (context : Context) : List Artifact :=
  [⟨"__init__.py", packageSource context⟩,
    ⟨"client.py", clientSource context⟩,
    ⟨"schemas.py", componentSource context⟩,
    ⟨"context.py", contextSource context⟩,
    ⟨"procedures.py", proceduresSource⟩,
    ⟨"routers/__init__.py", routersSource context⟩,
    ⟨"routers/_app.py", appSource context⟩]

/-- The files of a package. -/
def artifacts (context : Context) : List Artifact :=
  commonArtifacts context ++ context.routers.map (routerArtifact context)

/-- The texts of the files of a package by path; a later file of the same path replaces an earlier
one. -/
def files (context : Context) : Named String :=
  Named.ofPairs ((artifacts context).map fun a ↦ (a.path, a.source.render))

end ApiCompiler.Package
