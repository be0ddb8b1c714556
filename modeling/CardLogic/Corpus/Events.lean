import CardLogic.Corpus.Basic

/-!
Keeping a corpus in step with cards that come and go.

Without a corpus there is nothing to keep in step, and nothing happens.
-/

namespace CardLogic.Corpus

/-! ## Cards that go -/

/-- The files of some cards are no longer there. -/
def removeFiles (c : Corpus) : List Card → Action Unit
  | [] => pure ()
  | card :: cards => do
    let wasThere ← Action.disk (Disk.removeIfThere (c.cardPath card.key))
    if !wasThere then
      Action.tell [⟨.debug, "Brak pliku jednostki karty '" ++ card.key ++ "'"⟩]
    removeFiles c cards

def otherRows (cards : List Card) (rows : List String) : List String :=
  rows.filter fun row => row ∉ cards.map fun card => ProgramFile.cardRow card.key

/-- The keys of the cards that rows stand for, in the order of the rows. -/
def keysOfRows (cards : List Card) (rows : List String) : List String :=
  rows.filterMap fun row =>
    (cards.find? fun card => ProgramFile.cardRow card.key = row).map Card.key

/-- A card and the cards below it are taken out of the corpus; the keys of the rows that
went. -/
def removeCards (c : Corpus) (tree : CardTree) : Action (List String) := do
  let key := tree.card.key
  if ← Action.read fun t => orFailure (c.isThere t) then
    let affected ← Action.read (c.subtree tree)
    c.removeFiles affected
    let rows ← Action.read fun t => ProgramFile.readRows t c.cardtreePath
    Action.disk ((ProgramFile.cardtree c.folder (otherRows affected rows)).write c.tag)
    Action.tell [⟨.info, "Usunięto obliczenia " ++ Decimal.showNat affected.length
      ++ " kart (karta '" ++ key ++ "')"⟩]
    return keysOfRows affected rows
  else
    Action.tell [⟨.debug, "Brak korpusu obliczeń, pomijam usuwanie '" ++ key ++ "'"⟩]
    return []

/-! ## Cards that come -/

def firstOfEachKey : List Card → List Card
  | [] => []
  | card :: cards => card :: (firstOfEachKey cards).filter fun other => other.key ≠ card.key

/-- The trees with those that were found in the project put in place of the ones given. -/
def asFound (found : List (String × CardTree)) (trees : List CardTree) : List CardTree :=
  trees.map fun tree => (found.lookup tree.card.key).getD tree

/-- Cards, with the cards below them, are taken into the corpus; the paths of the files. -/
def addCards (c : Corpus) (trees : List CardTree) : Action (List Path) := do
  if ← Action.read fun t => orFailure (c.isThere t) then
    let found ← Action.read (c.project.findCards (trees.map fun tree => tree.card.key))
    let cards := firstOfEachKey (CardTree.listing (asFound found trees))
    let files ← Action.read fun _ => c.cardFiles cards
    let cardtree ← Action.read (c.extendedCardtree cards)
    ProgramFile.writeAll c.tag (files ++ [cardtree])
  else
    Action.tell [⟨.debug, "Brak korpusu obliczeń, pomijam nowe karty"⟩]
    return []

end CardLogic.Corpus
