/-!
How an operation ends when nothing went wrong in the file tree.
-/

namespace CardLogic

inductive Outcome (α : Type) where
  | done (result : α)
  /-- The request cannot be answered: an unknown card, or rules the solver refuses. -/
  | rejected (message : String)
  /-- There is no solver, or it said nothing. -/
  | unavailable (message : String)
  | overdue (message : String)
  deriving DecidableEq, Repr

namespace Outcome

/-- The number that callers know an end by. -/
def code {α : Type} : Outcome α → Nat
  | done _ => 200
  | rejected _ => 400
  | unavailable _ => 500
  | overdue _ => 504

def message? {α : Type} : Outcome α → Option String
  | done _ => none
  | rejected m => some m
  | unavailable m => some m
  | overdue m => some m

def result? {α : Type} : Outcome α → Option α
  | done a => some a
  | _ => none

def isDone {α : Type} : Outcome α → Bool
  | done _ => true
  | _ => false

end Outcome

end CardLogic
