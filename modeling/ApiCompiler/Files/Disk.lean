import ApiCompiler.Failure
import ApiCompiler.Files.Utf8
import ApiCompiler.Files.Volume

/-!
# Operations on files

Operations that read and change a volume. What an operation has done before it fails stays
done. The system is asked for each of them once nothing that is there stands in its way.
-/

namespace ApiCompiler.Files

/-- A computation that changes a volume and may fail. -/
abbrev Disk := ExceptT Failure (StateM Volume)

namespace Disk

/-- A failed operation on a path. -/
def fail {α : Type} (path : Path) (kind : FaultKind) : Disk α :=
  throw (.file ⟨kind, some path.text⟩)

/-- Refuses a path that has no bytes or a null character. -/
def checkPath (operation : String) (path : Path) : Disk Unit := do
  if let some fault := Text.nameFault? path.text then throw (.encoding fault)
  if path.text.toList.any fun c ↦ c.toNat == 0 then throw (.nullInPath operation)

/-- The place that a path leads to. -/
def placeOf (path : Path) : Disk (List String) := do
  match (← get).locate path with
  | .ok place => return place
  | .error kind => fail path kind

/-- Asks the system for something at the place of a path. -/
def ask (access : Access) (path : Path) (place : List String) : Disk Unit := do
  if let some refusal := (← get).refusal? access place then fail path (.refused refusal)

/-- What stands at a path. -/
def entryAt? (path : Path) : Disk (Option Tree) := do
  return (← get).entryAt? path

/-- Whether something stands at a path. -/
def present (path : Path) : Disk Bool := do
  return (← entryAt? path).isSome

/-- Whether a directory stands at a path. -/
def isDirectory (path : Path) : Disk Bool := do
  return (← entryAt? path).any Tree.isDirectory

/-- Makes a directory in a directory that is there. -/
def makeDirectory (path : Path) : Disk Unit := do
  checkPath "mkdir" path
  let place ← placeOf path
  if ((← get).tree.find? place).isSome then fail path .exists
  ask .makeDirectory path place
  modify fun volume ↦ volume.edit (·.put place .empty)

/-- Makes a directory unless it is there. -/
def ensureDirectory (path : Path) : Disk Unit :=
  tryCatch (makeDirectory path) fun failure ↦ do
    if !(← isDirectory path) then throw failure

/-- A failure because something on the way to a path is not there. -/
def isMissing : Failure → Bool
  | .file ⟨.noEntry, _⟩ => true
  | _ => false

/-- Makes a directory and the directories on the way to it, unless they are there. -/
def makeDirectoriesFrom : (fuel : Nat) → Path → Disk Unit
  | 0, path => ensureDirectory path
  | fuel + 1, path =>
    tryCatch (makeDirectory path) fun failure ↦ do
      if isMissing failure then
        makeDirectoriesFrom fuel path.parent
        ensureDirectory path
      else if !(← isDirectory path) then throw failure

/-- Makes a directory and the directories on the way to it, unless they are there. -/
def makeDirectories (path : Path) : Disk Unit :=
  makeDirectoriesFrom path.names.length path

/-- Sets the content of the file at a place. -/
def putContent (place : List String) (content : Content) : Disk Unit :=
  modify fun volume ↦ volume.edit (·.put place (.file content))

/-- Writes a text to an open file, unless the system refuses it; a part of it may be written then.
-/
def writeText (place : List String) (text : String) : Disk Unit := do
  let volume ← get
  match volume.refusal? .writeFile place with
  | none => putContent place (.text text)
  | some refusal =>
    putContent place (volume.system.remains volume.tree place text)
    throw (.file ⟨.refused refusal, none⟩)

/-- Writes a file, in place of a file that is there. A text that has no bytes leaves it empty. -/
def write (path : Path) (text : String) : Disk Unit := do
  checkPath "open" path
  let place ← placeOf path
  if ((← get).tree.find? place).any Tree.isDirectory then fail path .isDirectory
  ask .openFile path place
  match Text.encodingFault? .utf8 text with
  | none => writeText place text
  | some fault =>
    putContent place (.text "")
    throw (.encoding fault)

/-- Moves what stands at one path to another one, where nothing is. Neither path may end in a step
back. -/
def rename (path target : Path) : Disk Unit := do
  let source ← placeOf path
  let place ← placeOf target
  if path.name == ".." || target.name == ".." then fail path .busy
  match (← get).tree.find? source with
  | none => fail path .noEntry
  | some entry => modify fun volume ↦ volume.edit fun tree ↦ (tree.remove source).put place entry

/-- Removes a directory with all that is in it; nothing happens where no directory is. -/
def removeDirectory (path : Path) : Disk Unit := do
  if ← isDirectory path then
    let place ← placeOf path
    modify fun volume ↦ volume.edit (·.remove place)

/-- Every line end becomes a line feed. -/
def unifyLineEnds : List Char → List Char
  | '\r' :: '\n' :: rest => '\n' :: unifyLineEnds rest
  | '\r' :: rest => '\n' :: unifyLineEnds rest
  | c :: rest => c :: unifyLineEnds rest
  | [] => []

/-- The text of a file's content. -/
def textOf : Content → Except Failure String
  | .text text => .ok (String.ofList (unifyLineEnds text.toList))
  | .bytes bytes =>
    match decode bytes with
    | .ok chars => .ok (String.ofList (unifyLineEnds chars))
    | .error fault => .error (.undecodable bytes fault.start fault.stop fault.reason)

/-- The text of the file at a path. -/
def read (path : Path) : Disk String := do
  checkPath "open" path
  let place ← placeOf path
  match (← get).tree.find? place with
  | none => fail path .noEntry
  | some (.directory _) => fail path .isDirectory
  | some (.file content) =>
    ask .openFile path place
    if let some refusal := (← get).refusal? .readFile place then
      throw (.file ⟨.refused refusal, none⟩)
    match textOf content with
    | .ok text => return text
    | .error failure => throw failure

/-- The outcome of a computation and the volume after it. -/
def runOn {α : Type} (disk : Disk α) (volume : Volume) : Except Failure α × Volume :=
  disk.run volume

/-- The outcome of a computation that leaves the volume alone. -/
def eval {α : Type} (disk : Disk α) (volume : Volume) : Except Failure α :=
  (disk.runOn volume).1

end Disk

end ApiCompiler.Files
