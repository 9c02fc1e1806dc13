/-!
# Path templates

A part in brackets is an opening bracket, at least one character other than the closing bracket, and
the closing bracket. It ends at the first closing bracket and may hold opening ones. Brackets that
form no such part stand for themselves. Path templates and markup tags are both of this form.

A path is a text with named templates between braces. The segments of a path are its parts between
slashes that are not empty, and the first of them names the resource.
-/

/-! ## Bracketed parts -/

namespace ApiCompiler

/-- A piece of a text: a character that stands for itself or the content of a bracketed part. -/
inductive Piece where
  | char (c : Char)
  | part (content : List Char)
  deriving DecidableEq

namespace Piece

/-- The pieces of a text. `pending` is the reversed content of a part that has been opened. -/
def splitFrom (opening closing : Char) : (pending : Option (List Char)) → List Char → List Piece
  | none, [] => []
  | some content, [] => .char opening :: content.reverse.map .char
  | none, c :: rest =>
    if c = opening then splitFrom opening closing (some []) rest
    else .char c :: splitFrom opening closing none rest
  | some content, c :: rest =>
    if c = closing then
      if content.isEmpty then
        .char opening :: .char closing :: splitFrom opening closing none rest
      else .part content.reverse :: splitFrom opening closing none rest
    else splitFrom opening closing (some (c :: content)) rest

/-- The pieces of a text. -/
def split (opening closing : Char) (text : List Char) : List Piece :=
  splitFrom opening closing none text

/-- The content of a bracketed part. -/
def content? : Piece → Option (List Char)
  | char _ => none
  | part content => some content

/-- The text of a piece, a part standing for its content. -/
def inner : Piece → List Char
  | char c => [c]
  | part content => content

/-- The text of a piece outside brackets. -/
def outer : Piece → List Char
  | char c => [c]
  | part _ => []

end Piece

end ApiCompiler

/-! ## Paths -/

namespace ApiCompiler.PathTemplate

/-- The pieces of a path: characters and templates. -/
def pieces (text : List Char) : List Piece :=
  Piece.split '\x7b' '\x7d' text

/-- A segment that is one template, or begins and ends like one. -/
def isParam (segment : List Char) : Bool :=
  segment.head? == some '\x7b' && segment.getLast? == some '\x7d'

/-- The segment that is being read, reversed, in front of the segments after it. -/
def pushSegment (segment : List Char) (segments : List (List Char)) : List (List Char) :=
  if segment.isEmpty then segments else segment.reverse :: segments

/-- The segments of a text, given the reversed beginning of the current one. -/
def segmentsFrom (segment : List Char) : List Char → List (List Char)
  | [] => pushSegment segment []
  | c :: rest =>
    if c = '/' then pushSegment segment (segmentsFrom [] rest)
    else segmentsFrom (c :: segment) rest

/-- The parts between slashes that are not empty. -/
def segments (path : List Char) : List (List Char) :=
  segmentsFrom [] path

/-- The names of the templates in order, each listed once. -/
def params (path : String) : List String :=
  ((pieces path.toList).filterMap Piece.content?).foldl
    (fun names name ↦
      let name := String.ofList name
      if names.contains name then names else names ++ [name]) []

/-- The first segment of a path that has a slash, with a template's name for the template. -/
def resource? (path : String) : Option String :=
  let chars := path.toList
  if chars.contains '/' then
    (segments chars).head?.map fun segment ↦
      String.ofList ((pieces segment).flatMap Piece.inner)
  else none

end ApiCompiler.PathTemplate
