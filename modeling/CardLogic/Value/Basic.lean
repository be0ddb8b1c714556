import CardLogic.Decimal.Binary64
import CardLogic.Decimal.Whole
import CardLogic.Text.Basic

/-!
Values of a card's metadata.

Metadata come from a file that anybody may edit, so a value may be anything such a
file can hold.  Fields keep the order in which they were first named.
-/

namespace CardLogic

inductive Value where
  | null
  | bool (b : Bool)
  | whole (n : Int)
  | real (x : Binary64)
  | text (s : Text)
  | list (items : List Value)
  | object (fields : List (Text × Value))
  deriving Inhabited

/-- Named values in the order of their names' first appearance. -/
abbrev Metadata := List (Text × Value)

namespace Metadata

/-- The fields with a value set: in place if the name is known, else at the end. -/
def put : Metadata → Text → Value → Metadata
  | [], name, v => [(name, v)]
  | (n, w) :: fields, name, v =>
    if n = name then (name, v) :: fields else (n, w) :: put fields name v

/-- Fields given one after another; of a repeated name the last value counts, at the
place of the first. -/
def ofList (fields : List (Text × Value)) : Metadata :=
  fields.foldl (fun m f => put m f.1 f.2) []

def names (m : Metadata) : List Text := m.map Prod.fst

end Metadata

namespace Value

/-- Values that count as nothing said: the empty ones, the zeros and `false`. -/
def isBlank : Value → Bool
  | null => true
  | bool b => !b
  | whole n => n = 0
  | real x => x.isZero
  | text s => s.isEmpty
  | list items => items.isEmpty
  | object fields => fields.isEmpty

mutual

/-- Whether every whole number in a value has no more digits than are written. -/
def isWritable : Value → Bool
  | null => true
  | bool _ => true
  | whole n => Decimal.isShort n
  | real _ => true
  | text _ => true
  | list items => areWritable items
  | object fields => fieldsAreWritable fields

def areWritable : List Value → Bool
  | [] => true
  | v :: vs => isWritable v && areWritable vs

def fieldsAreWritable : List (Text × Value) → Bool
  | [] => true
  | (_, v) :: fields => isWritable v && fieldsAreWritable fields

end

end Value

end CardLogic
