import CardLogic.Fact.Literal

/-!
Facts of the logic program: what a project says of its cards, and what the solver
says back.

Card keys are constants and stand in a fact as they are.  Field names, values and
kinds are texts and stand in it as literals.
-/

namespace CardLogic

inductive Fact where
  | card (key : Text)
  | field (key name value : Text)
  | label (key value : Text)
  | parent (key parentKey : Text)
  /-- A field that its author writes, never derived. -/
  | userField (key name : Text)
  /-- What a field is found to hold, such as card keys. -/
  | fieldType (key name kind : Text)
  deriving DecidableEq, Repr

namespace Fact

def predicate : Fact → String
  | card .. => "card"
  | field .. => "field"
  | label .. => "label"
  | parent .. => "parent"
  | userField .. => "userfield"
  | fieldType .. => "fieldtype"

def terms : Fact → List Text
  | card k => [k]
  | field k n v => [k, n, v]
  | label k v => [k, v]
  | parent k p => [k, p]
  | userField k n => [k, n]
  | fieldType k n t => [k, n, t]

def args : Fact → List Text
  | card k => [k]
  | field k n v => [k, Literal.quote n, Literal.quote v]
  | label k v => [k, Literal.quote v]
  | parent k p => [k, p]
  | userField k n => [k, Literal.quote n]
  | fieldType k n t => [k, Literal.quote n, Literal.quote t]

def render (f : Fact) : Text :=
  f.predicate ++ "(" ++ List.intercalate ", " f.args ++ ")."

/-- The fact of a predicate with these arguments, if the predicate is one of the six
and takes that many. -/
def ofTerms? : (predicate : String) → (terms : List Text) → Option Fact
  | "card", [k] => some (card k)
  | "field", [k, n, v] => some (field k n v)
  | "label", [k, v] => some (label k v)
  | "parent", [k, p] => some (parent k p)
  | "userfield", [k, n] => some (userField k n)
  | "fieldtype", [k, n, t] => some (fieldType k n t)
  | _, _ => none

theorem ofTerms?_terms (f : Fact) : ofTerms? f.predicate f.terms = some f := by
  cases f <;> rfl

end Fact

end CardLogic
