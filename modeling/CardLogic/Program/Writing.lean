import CardLogic.Program.File
import CardLogic.Workspace

/-!
Writing program files.

A file is written beside its place under a temporary name and then moved there, so a
failure leaves what was there before.  A batch goes on after a failure; what could not
be written is told at the end, all of it together.  A file that the operating system is not
asked for, because its path or its text could not be any file's, is another matter: the first
such one is all that is told, and nothing is cleared up after it.
-/

namespace CardLogic.ProgramFile

/-- The temporary name of a file; the tag tells writers apart. -/
def temporaryName (tag name : String) : String := "." ++ name ++ ".tmp-" ++ tag

def temporaryPath (tag : String) (f : ProgramFile) : Path :=
  f.path.withName (temporaryName tag f.path.name)

/-- The file written and moved to its place. -/
def place (tag : String) (f : ProgramFile) : Disk Unit := do
  let temporary := f.temporaryPath tag
  Disk.writeText temporary f.text
  Disk.step (·.moveFile temporary f.path)

/-- The file in its place, in a folder that is made if need be.  If the operating system
fails, no temporary file stays behind; if that fails too, then for this reason. -/
def write (tag : String) (f : ProgramFile) : Disk Unit := do
  Disk.makeFolders f.path.parent
  try f.place tag
  catch e =>
    if e.isSystem then
      let _ ← Disk.removeIfThere (f.temporaryPath tag)
    throw e

def writeEach (tag : String) :
    List ProgramFile → FileTree → List (ProgramFile × FileError) × FileTree
  | [], t => ([], t)
  | f :: fs, t =>
    match f.write tag t with
    | .ok _ t => writeEach tag fs t
    | .error e t =>
      let (failed, t) := writeEach tag fs t
      ((f, e) :: failed, t)

/-- A batch of files; the paths of the files if all were written. -/
def writeAll (tag : String) (files : List ProgramFile) : Action (List Path) := do
  if files = [] then return []
  let failed ← fun w =>
    let (failed, t) := writeEach tag files w.tree
    .ok failed { w with tree := t }
  if let some f := failed.find? (!·.2.isSystem) then throw (.file f.2)
  Action.tell [⟨.debug, "Zapisano " ++ Decimal.showNat (files.length - failed.length) ++ "/"
    ++ Decimal.showNat files.length ++ " jednostek"⟩]
  if failed ≠ [] then throw (.notWritten files.length failed)
  return files.map ProgramFile.path

/-! ## Reading and removing -/

/-- The rows of a file that includes others, without blank ones; none if there is no
file. -/
def readRows (t : FileTree) (p : Path) : Except Failure (List String) := do
  if ← orFailure (t.isFile p) then
    let text ← t.readText p
    return ((Text.lines text.toList).filter fun l => !Text.allBlank l).map String.ofList
  return []

end CardLogic.ProgramFile
