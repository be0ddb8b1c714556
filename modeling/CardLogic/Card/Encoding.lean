import CardLogic.Card.Basic
import CardLogic.Fact.Basic
import CardLogic.Value.Text

/-!
A card as facts of the logic program.

Each field is one fact, each label one of its own.  The card above is known from the
folder alone: a card lies two folders below its parent, and a card directly in the
folder of all cards has none.
-/

namespace CardLogic.Card

/-- The folder of all cards of a project. -/
def rootFolder : String := "cardroot"

/-- The field whose items are facts of their own. -/
def labelsField : String := "labels"

/-- The key of the card whose folder holds the folder at this path. -/
def parentKey? (path : Path) : Option String :=
  match path.components.reverse with
  | _ :: folder :: key :: _ => if folder = rootFolder then none else some key
  | _ => none

/-- The labels in a value: the items of a list, or the value itself unless it is blank. -/
def labels : Value → List Value
  | .list items => items
  | v => if v.isBlank then [] else [v]

def labelFacts (key : String) : List Value → Except Decimal.TooManyDigits (List Fact)
  | [] => .ok []
  | v :: vs => do
    let text ← v.fieldText
    let rest ← labelFacts key vs
    return .label key text :: rest

def fieldFacts (key : String) (field : Text × Value) :
    Except Decimal.TooManyDigits (List Fact) :=
  if field.1 = labelsField then labelFacts key (labels field.2)
  else field.2.fieldText.map fun text => [.field key field.1 text]

def metadataFacts (key : String) : Metadata → Except Decimal.TooManyDigits (List Fact)
  | [] => .ok []
  | field :: fields => do
    let first ← fieldFacts key field
    let rest ← metadataFacts key fields
    return first ++ rest

def parentFacts (key : String) (path : Path) : List Fact :=
  match parentKey? path with
  | some p => [.parent key p]
  | none => []

/-- What the program says of a card: its fields in order, then the card above. -/
def facts (c : Card) : Except Decimal.TooManyDigits (List Fact) :=
  (metadataFacts c.key (c.metadata.getD [])).map fun fields =>
    fields ++ parentFacts c.key c.path

/-- The line that names a card. -/
def nameLine (key : String) : Text := "% " ++ Text.ofString key

/-- Facts as lines of a program, under a line that names a card. -/
def programText (key : String) (facts : List Fact) : Text :=
  .char '\n' :: Text.joinPieces (.char '\n') (nameLine key :: facts.map Fact.render)
    ++ [.char '\n']

def encode (c : Card) : Except Decimal.TooManyDigits Text := c.facts.map (programText c.key)

end CardLogic.Card
