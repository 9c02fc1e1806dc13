import ApiCompiler.Files.Disk
import ApiCompiler.Report

/-!
# Installing a package

The files of a package are written to a directory beside the output, which takes the place of the
output once all of them are there. What stood at the output before is moved away first and removed
afterwards, if it is a directory. When anything fails, the directory beside the output is removed
and the output stays as it was.
-/

namespace ApiCompiler.Package

open Files (Disk Path)

/-- The directory beside the output in which a package is written. The mark tells it apart from what
is there. -/
def stagingPath (output : Path) (mark : String) : Path :=
  output.parent.child ("." ++ output.name ++ "-" ++ mark)

/-- Where the former output is moved to. -/
def backupPath (output : Path) (mark : String) : Path :=
  output.parent.child ("." ++ output.name ++ "-" ++ mark ++ ".old")

/-- Writes a file of a package below a directory. -/
def writeFile (directory : Path) (file : String × String) : Disk Unit := do
  let target := directory.append (.ofText file.1)
  Disk.makeDirectories target.parent
  Disk.write target file.2

/-- Moves the former output away; tells whether there was any. -/
def moveAway (output : Path) (mark : String) : Disk Bool := do
  if ← Disk.present output then
    if output.name == "" then throw (.unnamedOutput output)
    Disk.rename output (backupPath output mark)
    return true
  else return false

/-- Moves a written package to the output; the former output is moved back if that fails. -/
def moveIn (output : Path) (mark : String) (replaced : Bool) : Disk Unit :=
  tryCatch (Disk.rename (stagingPath output mark) output) fun failure ↦ do
    if replaced then Disk.rename (backupPath output mark) output
    throw failure

/-- Puts a package in the place of an output; tells whether there was a former output. -/
def replaceOutput (files : Named String) (output : Path) (mark : String) : Disk Bool := do
  files.forM (writeFile (stagingPath output mark))
  let replaced ← moveAway output mark
  moveIn output mark replaced
  return replaced

/-- Installs the files of a package at an output. -/
def install (files : Named String) (output : Path) (mark : String) : Disk Unit := do
  Disk.makeDirectories output.parent
  let staging := stagingPath output mark
  Disk.makeDirectory staging
  let replaced ← tryCatch (replaceOutput files output mark) fun failure ↦ do
    Disk.removeDirectory staging
    throw failure
  if replaced then Disk.removeDirectory (backupPath output mark)

/-- Installs the files of a package on a volume, and logs it. -/
def installIn (volume : Files.Volume) (files : Named String) (output : Path) (mark : String) :
    Report Unit × Files.Volume :=
  match (install files output mark).runOn volume with
  | (.ok _, volume) => (Report.note (.wrote files.length output.text), volume)
  | (.error failure, volume) => (.fail failure, volume)

end ApiCompiler.Package
