import CardLogic.Corpus.Events
import CardLogic.Corpus.Generation

/-!
The engine: what a caller may ask for.

Requests name a project and a card's key.  Events name a card; the project is the one
that the card's folder belongs to.
-/

namespace CardLogic

structure Engine where
  settings : Solver.Settings
  solver : Solver.Program
  /-- Tells this engine's temporary files from those of others. -/
  tag : String

namespace Engine

def corpus (e : Engine) (project : Path) : Corpus := ⟨⟨project.absolute⟩, e.tag⟩

/-- The corpus of the project that a card belongs to. -/
def corpusOf (e : Engine) (card : Card) : Action Corpus := do
  match ← Action.read fun t => orFailure (Project.base? t card.path) with
  | some base => pure (e.corpus base)
  | none => throw (.noProject card.key card.path)

def unknownCard (key : String) : String := "Nie znaleziono karty '" ++ key ++ "'"

/-- The whole corpus, or its part for the card of a key and the cards below it.  The
empty text is no key. -/
def generateIn (c : Corpus) (key : String) : Action (Outcome (List Path)) := do
  if key = "" then
    return .done (← c.generate none)
  match ← Action.read (c.project.findCard? key) with
  | some tree => return .done (← c.generate (some tree))
  | none =>
    Action.tell [⟨.warning, "Generowanie dla nieznanej karty '" ++ key ++ "'"⟩]
    return .rejected (unknownCard key)

/-- The program of a project, or its part for a card and the cards below it. -/
def generate (e : Engine) (project : Path) (key : String) : Action (Outcome (List Path)) :=
  generateIn (e.corpus project) key

/-- The derived fields of a card, by the program written before. -/
def run (e : Engine) (project : Path) (key : String) :
    Action (Outcome (List Solver.Derived)) := do
  if key = "" then return .rejected "Klucz karty jest wymagany"
  let c := e.corpus project
  match ← Action.read (c.project.findCard? key) with
  | none =>
    Action.tell [⟨.warning, "Zapytanie o nieznaną kartę '" ++ key ++ "'"⟩]
    return .rejected (unknownCard key)
  | some tree =>
    let key := tree.card.key
    Action.start (Solver.invocation e.settings c.mainPath key)
    let (outcome, log) := Solver.run e.settings e.solver c.mainPath key
    Action.tell log
    return outcome

/-! ## Events -/

def cardChanged (e : Engine) (card : Card) : Action (Outcome (List Path)) := do
  generateIn (← e.corpusOf card) card.key

def cardRemoved (e : Engine) (tree : CardTree) : Action (List String) := do
  (← e.corpusOf tree.card).removeCards tree

/-- Cards were added, all of them to the project of the first. -/
def cardsAdded (e : Engine) : List CardTree → Action (List Path)
  | [] => return []
  | tree :: trees => do (← e.corpusOf tree.card).addCards (tree :: trees)

end Engine

end CardLogic
