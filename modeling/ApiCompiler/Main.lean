import ApiCompiler.CommandLine

/-!
# The program

The outer layer of the command line. It reads the environment and the document, and puts the package
that was generated on the disk. Documents are read from files; no host is reached from here.
-/

namespace ApiCompiler.Program

open Files (Path Tree Volume)

/-- The variables that are set, with their values. -/
def environment : IO (Named String) :=
  Config.variableNames.filterMapM fun name ↦ do
    return (← IO.getEnv name).map fun value ↦ (name, value)

/-- What stands at a path of the disk; a directory shows nothing of what is in it. -/
def entryAt? (path : Path) : IO (Option Tree) := do
  match ← (IO.FS.readBinFile path.text).toBaseIO with
  | .ok bytes => return some (.file (.bytes bytes.toList))
  | .error (.inappropriateType ..) => return some .empty
  | .error _ => return none

/-- The disk as far as a run looks at it: the working directory and the file that is read. -/
def volume (source : Option Path) : IO Volume := do
  let blank := Volume.blank (Path.ofText (← IO.currentDir).toString).names
  match source with
  | none => return blank
  | some path => return (← entryAt? path).elim blank (blank.provide path)

/-- The letters of a mark. -/
def markLetters : List Char :=
  "abcdefghijklmnopqrstuvwxyz0123456789_".toList

/-- A text that is not likely to end the name of anything. -/
def freshMark : IO String := do
  let letters ← (List.range 8).mapM fun _ ↦ do
    return markLetters.getD (← IO.rand 0 (markLetters.length - 1)) 'a'
  return String.ofList letters

/-- No host is reached. -/
def transport : Transport :=
  fun _ ↦ .failed "ConnectError" "the network is not available"

/-- Writes a tree to a path of the disk where nothing is. -/
partial def write (path : Path) : Tree → IO Unit
  | .file (.text text) => IO.FS.writeFile path.text text
  | .file (.bytes bytes) => IO.FS.writeBinFile path.text ⟨bytes.toArray⟩
  | .directory entries => do
    IO.FS.createDirAll path.text
    for (name, tree) in entries do
      write (path.child name) tree

/-- Puts a tree in the place of what stands at a path of the disk. -/
def replace (path : Path) (mark : String) (tree : Tree) : IO Unit := do
  let staging := Package.stagingPath path mark
  let backup := Package.backupPath path mark
  write staging tree
  let moved ← (IO.FS.rename path.text backup.text).toBaseIO
  IO.FS.rename staging.text path.text
  if moved.isOk then
    discard (IO.FS.removeDirAll backup.text).toBaseIO

/-- Puts the package that an invocation generated on the disk. -/
def deliver (effect : CommandLine.Effect) (output : Path) (mark : String) : IO Unit := do
  match effect.volume.entryAt? output with
  | some tree => if effect.exitCode == 0 then replace output mark tree
  | none => return

/-- Carries out an invocation; the code tells how it ended. -/
def run (invocation : CommandLine.Invocation) : IO UInt32 := do
  let mark ← freshMark
  let volume ← volume (CommandLine.sourceFile? invocation)
  let effect := CommandLine.carryOut ⟨volume, transport, mark⟩ invocation
  deliver effect invocation.config.output mark
  IO.print effect.standardOutput
  IO.eprint effect.standardError
  return effect.exitCode.toUInt32

end ApiCompiler.Program

/-- Reads the command line and carries it out. -/
def main (arguments : List String) : IO UInt32 := do
  match ApiCompiler.CommandLine.read (← ApiCompiler.Program.environment) arguments with
  | .ok invocation => ApiCompiler.Program.run invocation
  | .error stop =>
    IO.print stop.standardOutput
    IO.eprint stop.standardError
    return stop.exitCode.toUInt32
