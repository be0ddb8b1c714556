import CardLogic.Path

/-!
Files of the logic program.

The program of a project lies in a folder of its own: one file for each card, a file
that includes those, a file that includes the rules the project brings along, the
rules every project shares, and a main file that includes the last three.
-/

namespace CardLogic

inductive FileKind where
  | base
  | card
  | cardtree
  | modules
  | main
  deriving DecidableEq, Repr

def FileKind.name : FileKind → String
  | base => "base"
  | card => "card"
  | cardtree => "cardtree"
  | modules => "modules"
  | main => "main"

structure ProgramFile where
  kind : FileKind
  path : Path
  text : Text
  deriving DecidableEq, Repr

/-- A file of rules that a project brings along. -/
structure RuleFile where
  /-- The file's name after the name of what it belongs to. -/
  name : String
  /-- The folder of the file, unless there is no file. -/
  folder : Option Path
  deriving DecidableEq, Repr

namespace ProgramFile

def baseName : String := "base.lp"

def cardtreeName : String := "cardtree.lp"

def modulesName : String := "modules.lp"

def mainName : String := "main.lp"

def cardsFolder : String := "cards"

def cardName (key : String) : String := key ++ ".lp"

/-! ## Rows that include a file -/

def includeRow (target : String) : String := "#include \"" ++ target ++ "\"."

/-- The row for a card.  Nothing but this row stands for the card. -/
def cardRow (key : String) : String := includeRow (cardsFolder ++ "/" ++ cardName key)

def afterLastSlash (s : List Char) : List Char := (s.reverse.takeWhile (· ≠ '/')).reverse

/-- The row for a rule file, if there is a file.  The name's beginning only tells apart
files of the same name; the folder knows it already. -/
def moduleRow? (m : RuleFile) : Option String :=
  m.folder.map fun folder =>
    includeRow (folder.join (String.ofList (afterLastSlash m.name.toList))).toString

def rowsText (rows : List String) : String := String.join (rows.map (· ++ "\n"))

end ProgramFile

end CardLogic
