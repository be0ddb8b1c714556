import CardLogic.FileTree.Basic
import CardLogic.FileTree.Fault

/-!
Paths in the tree, and the single steps that read and change it.

A path is followed segment by segment, and every segment but the last has to lead to a
folder.  The segment for the folder above leads to where the entry reached so far lies,
which is not what dropping a segment of the path would give.

A single step either changes the tree as a whole or fails and changes nothing.
-/

namespace CardLogic.FileTree

def nameLimit : Nat := 255

def pathLimit : Nat := 4095

def walk (t : FileTree) : Location → List String → Except Fault Location
  | here, [] => .ok here
  | here, s :: rest =>
    match t.find here with
    | none => .error .missing
    | some (.file _) => .error .notAFolder
    | some (.folder _) =>
      if s = Path.up then walk t here.dropLast rest
      else if nameLimit < s.utf8ByteSize then .error .nameTooLong
      else walk t (here ++ [s]) rest

/-- The location that a path leads to.  There need not be an entry at it. -/
def resolve (t : FileTree) (p : Path) : Except Fault Location :=
  if p.hasNull then .error .nullCharacter
  else if pathLimit < p.toString.utf8ByteSize then .error .nameTooLong
  else walk t [] p.segments

/-- The location of a path, with the fault as an error of that path. -/
def locate (t : FileTree) (p : Path) : Except FileError Location :=
  match t.resolve p with
  | .ok loc => .ok loc
  | .error f => .error ⟨f, p, none⟩

/-! ## Reading -/

/-- What stands at a path.  That there is no way to the path means that nothing does;
only a name that could never exist is an error. -/
def entry? (t : FileTree) (p : Path) : Except FileError (Option Node) :=
  match t.resolve p with
  | .ok loc => .ok (t.find loc)
  | .error .nameTooLong => .error ⟨.nameTooLong, p, none⟩
  | .error _ => .ok none

def isFolder (t : FileTree) (p : Path) : Except FileError Bool :=
  (t.entry? p).map fun o => o.any Node.isFolder

def isFile (t : FileTree) (p : Path) : Except FileError Bool :=
  (t.entry? p).map fun o => o.any Node.isFile

def readBytes (t : FileTree) (p : Path) : Except FileError ByteArray :=
  match t.locate p with
  | .error e => .error e
  | .ok loc =>
    match t.find loc with
    | none => .error ⟨.missing, p, none⟩
    | some (.folder _) => .error ⟨.isAFolder, p, none⟩
    | some (.file content) => .ok content

/-! ## Single steps -/

def makeFolder (t : FileTree) (p : Path) : Except FileError FileTree :=
  match t.locate p with
  | .error e => .error e
  | .ok loc =>
    match t.find loc with
    | some _ => .error ⟨.alreadyExists, p, none⟩
    | none => .ok (t.setEmptyFolder loc)

/-- A file with the given content, new or in place of the file that was there. -/
def writeBytes (t : FileTree) (p : Path) (content : ByteArray) : Except FileError FileTree :=
  match t.locate p with
  | .error e => .error e
  | .ok loc =>
    match t.find loc with
    | some (.folder _) => .error ⟨.isAFolder, p, none⟩
    | _ => .ok (t.setFile loc content)

def removeFile (t : FileTree) (p : Path) : Except FileError FileTree :=
  match t.locate p with
  | .error e => .error e
  | .ok loc =>
    match t.find loc with
    | none => .error ⟨.missing, p, none⟩
    | some (.folder _) => .error ⟨.isAFolder, p, none⟩
    | some (.file _) => .ok (t.remove loc)

/-- The file at `source` moved to `target`, where a file may be but no folder.  A target
named as the folder above something cannot be given away. -/
def moveFile (t : FileTree) (source target : Path) : Except FileError FileTree :=
  let fail (f : Fault) : Except FileError FileTree := .error ⟨f, source, some target⟩
  match t.resolve source, t.resolve target with
  | .error f, _ => fail f
  | _, .error f => fail f
  | .ok from', .ok to' =>
    if target.name = Path.up ∨ to' = [] then fail .busy
    else
      match t.find from', t.find to' with
      | none, _ => fail .missing
      | some (.folder _), _ => fail .isAFolder
      | _, some (.folder _) => fail .isAFolder
      | some (.file content), _ =>
        if from' = to' then .ok t else .ok ((t.remove from').setFile to' content)

end CardLogic.FileTree

namespace CardLogic

/-! ## Steps in sequence -/

/-- Steps on the file tree; what was done before a failure stays done. -/
abbrev Disk := EStateM FileError FileTree

namespace Disk

def step (f : FileTree → Except FileError FileTree) : Disk Unit := fun t =>
  match f t with
  | .ok t' => .ok () t'
  | .error e => .error e t

def look {α : Type} (f : FileTree → Except FileError α) : Disk α := fun t =>
  match f t with
  | .ok a => .ok a t
  | .error e => .error e t

/-- Passes if the path is a folder already, whatever went wrong in making it. -/
def acceptFolder (p : Path) (e : FileError) : Disk Unit := do
  if ← look (·.isFolder p) then pure () else throw e

/-- The folder at a path; what to do if the folder above is missing is left open. -/
def makeFolderOr (p : Path) (onMissing : FileError → Disk Unit) : Disk Unit := do
  try step (·.makeFolder p)
  catch e => if e.fault = .missing then onMissing e else acceptFolder p e

/-- The folder at a path, given by its segments in reverse, and the folders above it,
as far as they are not there yet. -/
def makeFoldersAt (anchor : Anchor) : List String → Disk Unit
  | [] => makeFolderOr ⟨anchor, []⟩ throw
  | s :: above =>
    let p : Path := ⟨anchor, (s :: above).reverse⟩
    makeFolderOr p fun _ => do
      makeFoldersAt anchor above
      makeFolderOr p throw

def makeFolders (p : Path) : Disk Unit := makeFoldersAt p.anchor p.segments.reverse

/-- The file at a path is no longer there; says whether it was. -/
def removeIfThere (p : Path) : Disk Bool := do
  try
    step (·.removeFile p)
    pure true
  catch e => if e.fault = .missing then pure false else throw e

end Disk

end CardLogic
