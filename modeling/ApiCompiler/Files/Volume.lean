import ApiCompiler.Files.Path
import ApiCompiler.Named
import ApiCompiler.Text.Encoding

/-!
# Trees of files and volumes

A directory holds files and directories under names. What stands in a tree is named by the list of
names that leads to it.

A volume is a tree of files with a working directory, from which relative paths are followed. A path
is followed name by name, through directories that are there; only its last name may be new. The
system that keeps a volume may refuse to make a directory and to open, read or write a file, at any
place and depending on all that is there by then. It does not refuse to move or to remove anything.
-/

namespace ApiCompiler.Files

/-! ## Trees -/

/-- What a file holds. -/
inductive Content where
  | text (text : String)
  | bytes (bytes : List UInt8)
  deriving DecidableEq

/-- A file, or a directory with its entries. -/
inductive Tree where
  | file (content : Content)
  | directory (entries : List (String × Tree))

namespace Tree

/-- An empty directory. -/
def empty : Tree :=
  directory []

/-- What stands at a list of names. -/
def find? (tree : Tree) : List String → Option Tree
  | [] => some tree
  | name :: rest =>
    match tree with
    | file _ => none
    | directory entries => (Named.find? entries name).bind fun t ↦ t.find? rest

/-- Sets what stands at a list of names, inside the directories that are there. -/
def put (tree : Tree) : (names : List String) → (content : Tree) → Tree
  | [], content => content
  | name :: rest, content =>
    match tree with
    | file c => file c
    | directory entries =>
      directory (Named.put entries name (((Named.find? entries name).getD empty).put rest content))

/-- Removes what stands at a list of names. -/
def remove (tree : Tree) : List String → Tree
  | [] => tree
  | name :: rest =>
    match tree with
    | file c => file c
    | directory entries =>
      if rest.isEmpty then directory (entries.filter fun entry ↦ entry.1 != name)
      else
        match Named.find? entries name with
        | some t => directory (Named.put entries name (t.remove rest))
        | none => directory entries

/-- A directory. -/
def isDirectory : Tree → Bool
  | directory _ => true
  | file _ => false

end Tree

/-! ## Volumes -/

/-- What a system is asked for. -/
inductive Access where
  | makeDirectory
  | openFile
  | readFile
  | writeFile
  deriving DecidableEq

/-- A system that keeps files. -/
class System where
  /-- Why it refuses what it is asked for at a place of a tree. -/
  refusal? : Access → Tree → List String → Option Refusal
  /-- What is in a file afterwards if writing a text to it is refused. -/
  remains : Tree → List String → String → Content

/-- A system that refuses nothing. -/
instance System.permissive : System where
  refusal? _ _ _ := none
  remains _ _ _ := .text ""

/-- A tree of files with a working directory. -/
structure Volume where
  /-- The tree, from the root of absolute paths. -/
  tree : Tree
  /-- The names that lead to the working directory. -/
  working : List String
  /-- The system that keeps the tree; it refuses nothing where none is named. -/
  [system : System]

/-- The most bytes of a name. -/
def maxNameSize : Nat := 255

/-- The most bytes of a path. -/
def maxPathSize : Nat := 4095

/-- Follows names from a place; a root is its own parent. -/
def Tree.follow (tree : Tree) (place : List String) : List String → Except FaultKind (List String)
  | [] => .ok place
  | name :: rest =>
    match tree.find? place with
    | none => .error .noEntry
    | some (.file _) => .error .notDirectory
    | some (.directory _) =>
      if name == ".." then follow tree place.dropLast rest
      else if maxNameSize < Text.nameSize name then .error .nameTooLong
      else follow tree (place ++ [name]) rest

/-- Sets what stands at the end of names from a place where nothing is, and makes the directories on
the way. -/
def Tree.provide (tree entry : Tree) (place : List String) : List String → Tree
  | [] => if (tree.find? place).isNone then tree.put place entry else tree
  | name :: rest =>
    let tree := if (tree.find? place).isNone then tree.put place .empty else tree
    if name == ".." then provide tree entry place.dropLast rest
    else provide tree entry (place ++ [name]) rest

namespace Volume

/-- A volume with nothing but a working directory. -/
def blank (working : List String) : Volume :=
  ⟨Tree.empty.put working .empty, working⟩

/-- Where the names of a path are followed from. -/
def start (volume : Volume) (path : Path) : List String :=
  if path.root == "" then volume.working else []

/-- The place that a path leads to. -/
def locate (volume : Volume) (path : Path) : Except FaultKind (List String) :=
  if maxPathSize < Text.nameSize path.text then .error .nameTooLong
  else volume.tree.follow (volume.start path) path.names

/-- What stands at a path. -/
def entryAt? (volume : Volume) (path : Path) : Option Tree :=
  (volume.locate path).toOption.bind volume.tree.find?

/-- Why the system refuses what it is asked for at a place. -/
def refusal? (volume : Volume) (access : Access) (place : List String) : Option Refusal :=
  volume.system.refusal? access volume.tree place

/-- Changes the tree. -/
def edit (volume : Volume) (f : Tree → Tree) : Volume :=
  { volume with tree := f volume.tree }

/-- Sets what stands at a path where nothing is, and makes the directories on the way. -/
def provide (volume : Volume) (path : Path) (entry : Tree) : Volume :=
  volume.edit fun tree ↦ tree.provide entry (volume.start path) path.names

/-- What stands in the working directory. -/
def workingTree (volume : Volume) : Tree :=
  (volume.tree.find? volume.working).getD .empty

end Volume

end ApiCompiler.Files
