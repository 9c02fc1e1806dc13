import ApiCompiler.Text.Literal

/-!
# Generated source text

A generated file is a sequence of chunks. Code is written as it is; free text appears only inside a
documentation string that the code around it has opened, or as a quoted literal of its own.
-/

namespace ApiCompiler.Package

/-- A chunk of generated source. -/
inductive Chunk where
  | code (text : String)
  | doc (text : String)
  | quoted (text : String)
  deriving DecidableEq

/-- Generated source. -/
abbrev Source := List Chunk

/-- The text of a chunk. -/
def Chunk.render : Chunk → String
  | code text => text
  | doc text => Text.docstring text
  | quoted text => Text.quotedAscii text

/-- The text of generated source. -/
def Source.render (source : Source) : String :=
  String.join (source.map Chunk.render)

/-- A file of the generated package. -/
structure Artifact where
  /-- The path below the package directory. -/
  path : String
  /-- The content. -/
  source : Source

/-- A line of code. -/
def line (text : String) : Chunk :=
  .code (text ++ "\n")

/-- Lines of code. -/
def lines (texts : List String) : Source :=
  texts.map line

end ApiCompiler.Package
