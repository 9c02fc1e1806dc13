/-!
# Pointers into a document

A reference names a place in the document by the keys that lead to it, with slashes between them.
Inside a key a slash is written `~1` and a tilde `~0`; the escapes of slashes are undone first.
-/

namespace ApiCompiler.Pointer

/-- Undoes the escapes of slashes. -/
def decodeSlashes : List Char → List Char
  | '~' :: '1' :: rest => '/' :: decodeSlashes rest
  | c :: rest => c :: decodeSlashes rest
  | [] => []

/-- Undoes the escapes of tildes. -/
def decodeTildes : List Char → List Char
  | '~' :: '0' :: rest => '~' :: decodeTildes rest
  | c :: rest => c :: decodeTildes rest
  | [] => []

/-- A key from its written form. -/
def decodeKey (key : List Char) : String :=
  String.ofList (decodeTildes (decodeSlashes key))

/-- The parts between slashes, empty ones included. -/
def splitKeys : List Char → List (List Char)
  | [] => [[]]
  | c :: rest =>
    if c = '/' then [] :: splitKeys rest
    else
      match splitKeys rest with
      | [] => [[c]]
      | key :: keys => (c :: key) :: keys

/-- The last part of a reference, which names a component. -/
def componentName (reference : String) : String :=
  decodeKey ((splitKeys reference.toList).getLast?.getD [])

end ApiCompiler.Pointer
