import ApiCompiler.Text.Literal
import ApiCompiler.Text.Split

/-!
# Paths and faults of the file system

A path is a list of names below a root: the working directory, or one of the two roots of absolute
paths. Empty names and names for the same directory are left out when a path is read. A file
operation that fails has a fault, with the number and the text under which it is reported. It fails
for what is there, or because the system refuses it.
-/

namespace ApiCompiler.Files

/-! ## Paths -/

/-- A path. -/
structure Path where
  /-- What an absolute path begins with; empty for a relative one. -/
  root : String
  /-- The names on the way. -/
  names : List String
  deriving DecidableEq

namespace Path

/-- The root of a written path. Exactly two slashes in front are kept. -/
def rootOf (text : List Char) : String :=
  match (text.takeWhile (· == '/')).length with
  | 0 => ""
  | 2 => "//"
  | _ => "/"

/-- A path from its written form. -/
def ofText (text : String) : Path :=
  ⟨rootOf text.toList,
    ((Text.splitOn '/' text.toList).map String.ofList).filter fun name ↦ name != "" && name != "."⟩

/-- The written form of a path. -/
def text (path : Path) : String :=
  if path.root == "" && path.names.isEmpty then "." else path.root ++ "/".intercalate path.names

/-- A path as a literal. -/
def literal (path : Path) : String :=
  "PosixPath(" ++ Text.literal path.text ++ ")"

/-- The last name, empty where there is none. -/
def name (path : Path) : String :=
  path.names.getLast?.getD ""

/-- The directory that a path stands in; a root stands in itself. -/
def parent (path : Path) : Path :=
  { path with names := path.names.dropLast }

/-- A path below another one, unless it is absolute. -/
def append (path other : Path) : Path :=
  if other.root == "" then { path with names := path.names ++ other.names } else other

/-- The path of a name in a directory. -/
def child (path : Path) (name : String) : Path :=
  { path with names := path.names ++ [name] }

end Path

/-! ## Faults -/

/-- Why a system refuses an operation that the files admit: a missing permission, a full disk, a
device that fails. -/
structure Refusal where
  /-- The number under which it is reported. -/
  number : Nat
  /-- Its text. -/
  text : String
  /-- That something is not there depends on the files. -/
  number_ne : number ≠ 2 := by decide
  deriving DecidableEq

/-- Why a file operation fails. -/
inductive FaultKind where
  | noEntry
  | busy
  | exists
  | notDirectory
  | isDirectory
  | nameTooLong
  | refused (refusal : Refusal)
  deriving DecidableEq

/-- The number of a fault. -/
def FaultKind.number : FaultKind → Nat
  | noEntry => 2
  | busy => 16
  | .exists => 17
  | notDirectory => 20
  | isDirectory => 21
  | nameTooLong => 36
  | refused refusal => refusal.number

/-- The text of a fault. -/
def FaultKind.text : FaultKind → String
  | noEntry => "No such file or directory"
  | busy => "Device or resource busy"
  | .exists => "File exists"
  | notDirectory => "Not a directory"
  | isDirectory => "Is a directory"
  | nameTooLong => "File name too long"
  | refused refusal => refusal.text

/-- A failed operation. -/
structure Fault where
  /-- Why it fails. -/
  kind : FaultKind
  /-- The path it was asked for; an open file has none. -/
  path : Option String
  deriving DecidableEq

/-- The report of a failed operation. -/
def Fault.message (fault : Fault) : String :=
  "[Errno " ++ toString fault.kind.number ++ "] " ++ fault.kind.text ++
    fault.path.elim "" fun path ↦ ": " ++ Text.literal path

end ApiCompiler.Files
