import CardLogic.Fact.Basic

/-!
Reading a fact from text.

A fact is a predicate, its argument list in parentheses and an optional dot, with
blanks allowed before, after the closing parenthesis and around the dot.  The list
reaches to the last closing parenthesis of the text, so an argument may hold
parentheses.
-/

namespace CardLogic.Fact

open Text

def isNameStart (c : Char) : Bool := ('a' ≤ c && c ≤ 'z') || c = '_'

def isNameChar (c : Char) : Bool :=
  isNameStart c || ('A' ≤ c && c ≤ 'Z') || ('0' ≤ c && c ≤ '9')

def cutAtLast (d : CodePoint) : Text → Option (Text × Text)
  | [] => none
  | c :: s =>
    match cutAtLast d s with
    | some (before, after) => some (c :: before, after)
    | none => if c = d then some ([], s) else none

/-- What may follow the closing parenthesis: blanks, and a dot among them. -/
def isEnding (s : Text) : Bool :=
  let t := strip s
  t = [] || t = [.char '.']

def cutFact (s : Text) : Option (Text × Text) :=
  let t := stripStart s
  let name := t.takeWhile (·.is isNameChar)
  match name, t.drop name.length with
  | c :: _, '(' :: rest =>
    if c.is isNameStart then
      match cutAtLast ')' rest with
      | some (list, ending) => if isEnding ending then some (name, list) else none
      | none => none
    else none
  | _, _ => none

/-- The fact that a text states; `none` if the text is no fact, its predicate is not
one of the six, or an argument is missing, empty or one too many. -/
def read? (text : Text) : Option Fact :=
  match cutFact text with
  | none => none
  | some (name, list) =>
    let written := Literal.splitArgs list
    if [] ∈ written then none else ofTerms? name.toString (written.map Literal.unquote)

end CardLogic.Fact
