import CardLogic.FileTree.TextFile
import CardLogic.Log
import CardLogic.Solver.Run

/-!
Where operations take place: a file tree, the log, and the solver's starts so far.

What an operation did before it failed stays done.
-/

namespace CardLogic

structure Workspace where
  tree : FileTree
  log : List LogRecord
  starts : List Solver.Invocation

abbrev Action := EStateM Failure Workspace

namespace Action

def read {α : Type} (f : FileTree → Except Failure α) : Action α := fun w =>
  match f w.tree with
  | .ok a => .ok a w
  | .error e => .error e w

def disk {α : Type} (d : Disk α) : Action α := fun w =>
  match d w.tree with
  | .ok a t => .ok a { w with tree := t }
  | .error e t => .error (.file e) { w with tree := t }

def tell (records : List LogRecord) : Action Unit := fun w =>
  .ok () { w with log := w.log ++ records }

def start (s : Solver.Invocation) : Action Unit := fun w =>
  .ok () { w with starts := w.starts ++ [s] }

end Action

end CardLogic
