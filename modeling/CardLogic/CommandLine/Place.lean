import CardLogic.CommandLine.Command
import CardLogic.FileTree.Changes
import CardLogic.Json.Reader

/-!
A place for a command line to run at, described as JSON.

The description is an object.  Under `files` it has the texts of the files by their
paths, and under `solver` the end of the solver's starts: its `output`, its `errors` and
its exit `code`.  Without that there is no solver at the place.
-/

namespace CardLogic.CommandLine

/-- The tree with one more file, and the folders above it.  A file that cannot be there
is left out. -/
def withFile (t : FileTree) (path : Path) (text : Text) : FileTree :=
  let placed : Disk Unit := do
    Disk.makeFolders path.parent
    Disk.writeText path text
  match placed t with
  | .ok _ t' => t'
  | .error _ _ => t

def treeOf (files : Metadata) : FileTree :=
  files.foldl (fun t f =>
    match f.2 with
    | .text s => withFile t (Path.ofString f.1.toString) s
    | _ => t) FileTree.empty

/-- The value of a field. -/
def valueOf? (description : Metadata) (name : String) : Option Value :=
  description.lookup (Text.ofString name)

def textOf? : Value → Option String
  | .text s => some s.toString
  | _ => none

def wholeOf? : Value → Option Int
  | .whole n => some n
  | _ => none

/-- The solver that ends every start as described. -/
def solverOf (description : Metadata) : Solver.Program := fun _ =>
  .finished ((valueOf? description "output").bind textOf?)
    ((valueOf? description "errors").bind textOf?) ((valueOf? description "code").bind wholeOf?)

def noSolver : Solver.Program := fun start => .notStarted (start.arguments.headD "")

def placeOf? (text : String) : Option (FileTree × Solver.Program) :=
  match Json.read text with
  | .ok (.object fields) =>
    let files := match valueOf? fields "files" with
      | some (.object files) => files
      | _ => []
    let solver := match valueOf? fields "solver" with
      | some (.object description) => solverOf description
      | _ => noSolver
    some (treeOf files, solver)
  | _ => none

/-- Whether a record is told: without being asked for more, remarks for the curious are
kept back. -/
def isTold (verbose : Bool) (r : LogRecord) : Bool := verbose || r.level ≠ .debug

def Request.isVerbose : Request → Bool
  | command verbose _ => verbose
  | _ => false

end CardLogic.CommandLine
