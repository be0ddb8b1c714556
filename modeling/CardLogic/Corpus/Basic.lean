import CardLogic.Program.Shared
import CardLogic.Program.Writing
import CardLogic.Project.Lookup
import CardLogic.Project.Rules

/-!
The corpus of a project: the folder of its program, with one file for each card.

Which cards belong to the program is kept in one place, the rows of the file that
includes the cards' files.
-/

namespace CardLogic

structure Corpus where
  project : Project
  /-- Tells this writer's temporary files from those of others. -/
  tag : String
  deriving DecidableEq, Repr

namespace Corpus

def folder (c : Corpus) : Path := c.project.programFolder

def cardsFolder (c : Corpus) : Path := c.folder.child ProgramFile.cardsFolder

def cardtreePath (c : Corpus) : Path := c.folder.child ProgramFile.cardtreeName

def mainPath (c : Corpus) : Path := c.folder.child ProgramFile.mainName

def cardPath (c : Corpus) (key : String) : Path := c.cardsFolder.join (ProgramFile.cardName key)

def isThere (c : Corpus) (t : FileTree) : Except FileError Bool :=
  match t.isFolder c.folder with
  | .ok true => t.isFile c.cardtreePath
  | other => other

/-- The files of some cards, if every card has a text. -/
def cardFiles (c : Corpus) : List Card → Except Failure (List ProgramFile)
  | [] => .ok []
  | card :: cards => do
    let text ← card.encode.mapError .tooManyDigits
    let files ← cardFiles c cards
    return ⟨.card, c.cardPath card.key, text⟩ :: files

/-- The rows for cards of these keys added to rows, each unless it is there. -/
def mergeRows : (rows keys : List String) → List String
  | rows, [] => rows
  | rows, k :: ks =>
    let row := ProgramFile.cardRow k
    mergeRows (if row ∈ rows then rows else rows ++ [row]) ks

/-- The file that includes the cards' files, with rows for these cards added. -/
def extendedCardtree (c : Corpus) (cards : List Card) (t : FileTree) : Except Failure ProgramFile :=
  (ProgramFile.readRows t c.cardtreePath).map fun rows =>
    ProgramFile.cardtree c.folder (mergeRows rows (cards.map Card.key))

/-- A card and the cards below it as the project has them.  Of a card that the project
does not know any more, what is given counts. -/
def subtree (c : Corpus) (tree : CardTree) (t : FileTree) : Except Failure (List Card) :=
  (c.project.findCard? tree.card.key t).map fun found => (found.getD tree).cards

end Corpus

end CardLogic
