import CardLogic.Card.Encoding
import CardLogic.FileTree.Operations
import CardLogic.Program.File

/-!
A project: a folder that holds cards and what belongs to them.

The cards lie below one folder, the rules that the project brings along below another,
and a folder is a project's exactly if it holds both.
-/

namespace CardLogic

structure Project where
  /-- The project's folder. -/
  base : Path
  deriving DecidableEq, Repr

namespace Project

/-- The folder of the rules that a project brings along. -/
def resourcesFolder : String := ".cards"

/-- The folder of the cards below a card. -/
def childrenFolder : String := "c"

/-- The file of a card's fields. -/
def metadataName : String := "index.json"

def programFolderName : String := ".calc"

def cardRoot (p : Project) : Path := p.base.child Card.rootFolder

def programFolder (p : Project) : Path := p.base.child programFolderName

def display (p : Project) : String :=
  "FolderProject(" ++ String.ofList (Text.quoted p.base.toString) ++ ")"

def isBase (t : FileTree) (p : Path) : Except FileError Bool :=
  match t.isFolder (p.child resourcesFolder) with
  | .ok true => t.isFolder (p.child Card.rootFolder)
  | other => other

/-- The first of some folders that is a project's. -/
def firstBase? (t : FileTree) : List Path → Except FileError (Option Path)
  | [] => .ok none
  | p :: ps =>
    match isBase t p with
    | .ok true => .ok (some p)
    | .ok false => firstBase? t ps
    | .error e => .error e

/-- The folder of the project that a path belongs to: the nearest on the way up. -/
def base? (t : FileTree) (p : Path) : Except FileError (Option Path) :=
  firstBase? t p.absolute.selfAndAbove

end Project

end CardLogic
