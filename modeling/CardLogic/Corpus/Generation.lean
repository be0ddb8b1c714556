import CardLogic.Corpus.Basic

/-!
Writing a corpus, as a whole or for a card and the cards below it.

What all cards share is written with the whole corpus alone.
-/

namespace CardLogic.Corpus

/-- The cards to be written: all of the project's, or those of a tree. -/
def cardsInScope (c : Corpus) (scope : Option CardTree) (t : FileTree) :
    Except Failure (List Card) :=
  match scope with
  | none => c.project.cards t
  | some tree => c.subtree tree t

/-- The files beside those of the cards, for a corpus of exactly these cards or for one
with these among others. -/
def otherFiles (c : Corpus) (scope : Option CardTree) (cards : List Card) (t : FileTree) :
    Except Failure (List ProgramFile) :=
  match scope with
  | none =>
    (orFailure (c.project.ruleFiles t)).map fun rules =>
      [ProgramFile.cardtree c.folder (cards.map fun card => ProgramFile.cardRow card.key),
        ProgramFile.base c.folder, ProgramFile.modules c.folder rules, ProgramFile.main c.folder]
  | some _ => (c.extendedCardtree cards t).map fun file => [file]

def scopeText : Option CardTree → String
  | none => "projektu"
  | some tree => "poddrzewa '" ++ tree.card.key ++ "'"

/-- The corpus, or its part for a tree of cards, written anew; the paths of the files. -/
def generate (c : Corpus) (scope : Option CardTree) : Action (List Path) := do
  let cards ← Action.read (c.cardsInScope scope)
  Action.disk (Disk.makeFolders c.cardsFolder)
  let files ← Action.read fun _ => c.cardFiles cards
  let others ← Action.read (c.otherFiles scope cards)
  Action.tell [⟨.info, "Generowanie " ++ scopeText scope ++ ": " ++ Decimal.showNat cards.length
    ++ " kart"⟩]
  ProgramFile.writeAll c.tag (files ++ others)

end CardLogic.Corpus
