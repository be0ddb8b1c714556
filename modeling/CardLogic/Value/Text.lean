import CardLogic.Decimal.Shortest
import CardLogic.Decimal.Whole
import CardLogic.Text.Quoted
import CardLogic.Value.Basic

/-!
Values as text.

`Value.fieldText` is what the program knows of a field: texts as they are, truth
values in small letters, the items of a list with commas between them, and nothing
for a missing value.  An object has no form of its own in the program; it appears as
`Value.display` shows it to a reader, with texts in quotes.

A whole number of too many digits has no text, and neither has what it lies in.
-/

namespace CardLogic.Value

open Decimal (TooManyDigits)

def displayBool (b : Bool) : String := if b then "True" else "False"

def displayText (s : Text) : String := String.ofList (Text.quoted s)

mutual

def display : Value → Except TooManyDigits String
  | null => .ok "None"
  | bool b => .ok (displayBool b)
  | whole n => Decimal.writeInt n
  | real x => .ok (Decimal.plain.render x)
  | text s => .ok (displayText s)
  | list items => (displayItems items).map fun s => "[" ++ s ++ "]"
  | object fields => (displayFields fields).map fun s => "\x7b" ++ s ++ "\x7d"

def displayItems : List Value → Except TooManyDigits String
  | [] => .ok ""
  | [v] => display v
  | v :: vs => do
    let first ← display v
    let rest ← displayItems vs
    return first ++ ", " ++ rest

def displayFields : List (Text × Value) → Except TooManyDigits String
  | [] => .ok ""
  | [(n, v)] => (display v).map fun s => displayText n ++ ": " ++ s
  | (n, v) :: fs => do
    let first ← display v
    let rest ← displayFields fs
    return displayText n ++ ": " ++ first ++ ", " ++ rest

end

mutual

def fieldText : Value → Except TooManyDigits Text
  | null => .ok []
  | bool b => .ok (if b then "true" else "false")
  | whole n => (Decimal.writeInt n).map Text.ofString
  | real x => .ok (Decimal.plain.render x)
  | text s => .ok s
  | list items => fieldTexts items
  | object fields => (display (object fields)).map Text.ofString

def fieldTexts : List Value → Except TooManyDigits Text
  | [] => .ok []
  | [v] => fieldText v
  | v :: vs => do
    let first ← fieldText v
    let rest ← fieldTexts vs
    return first ++ .char ',' :: rest

end

end CardLogic.Value
