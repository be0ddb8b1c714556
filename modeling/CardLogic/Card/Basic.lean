import CardLogic.Path
import CardLogic.Value.Basic

/-!
Cards, and the trees they form.

A card is a folder with metadata.  The cards below it are known only when it comes as
part of a tree; the listing of a tree puts every card before the cards below it.
-/

namespace CardLogic

structure Card where
  key : String
  /-- The card's folder. -/
  path : Path
  /-- `none` if nothing is known of the card's fields. -/
  metadata : Option Metadata
  deriving Inhabited

inductive CardTree where
  | node (card : Card) (children : List CardTree)
  deriving Inhabited

namespace CardTree

def card : CardTree → Card
  | node c _ => c

def children : CardTree → List CardTree
  | node _ cs => cs

mutual

/-- The card and all cards below it, every card before those below it. -/
def cards : CardTree → List Card
  | node c children => c :: listing children

def listing : List CardTree → List Card
  | [] => []
  | t :: ts => cards t ++ listing ts

end

theorem listing_append (ts us : List CardTree) : listing (ts ++ us) = listing ts ++ listing us := by
  induction ts with
  | nil => simp [listing]
  | cons t ts ih => simp [listing, ih]

end CardTree

end CardLogic
