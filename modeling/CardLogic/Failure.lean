import CardLogic.FileTree.Fault
import CardLogic.Program.File
import CardLogic.Solver.Settings

/-!
Why an operation could not be carried out.
-/

namespace CardLogic

inductive Failure where
  | file (e : FileError)
  | notText (path : Path)
  | notJson (path : Path)
  /-- The file at the path is JSON of more levels than are read. -/
  | tooDeep (path : Path)
  | tooManyDigits (e : Decimal.TooManyDigits)
  /-- The file at the path is JSON, but holds no fields. -/
  | notFields (path : Path)
  /-- The card of this key, in this folder, belongs to no project. -/
  | noProject (key : String) (path : Path)
  /-- Of a batch of `total` program files these were not written; all others were. -/
  | notWritten (total : Nat) (failed : List (ProgramFile × FileError))
  | settings (e : Solver.SettingsError)
  | unmatchedMark (text : String)
  | notHandlerValue (text : String)
  | notShare (e : Decimal.WholeError)
  deriving DecidableEq, Repr

namespace Failure

def message : Failure → String
  | file e => e.message
  | notText p => "Plik nie jest tekstem UTF-8: " ++ p.toString
  | notJson p => "Plik nie jest poprawnym JSON: " ++ p.toString
  | tooDeep p => "Zbyt głęboko zagnieżdżony JSON: " ++ p.toString
  | tooManyDigits e => e.message
  | notFields p => "Metadane karty nie są obiektem JSON: " ++ p.toString
  | noProject key p =>
    "Karta '" ++ key ++ "' nie należy do struktury projektu (" ++ p.toString ++ ")"
  | notWritten total failed =>
    "Nie udało się zapisać " ++ Decimal.showNat failed.length ++ " z " ++ Decimal.showNat total
      ++ " plików obliczeń"
  | settings e => e.message
  | unmatchedMark text => "Znacznik bez pary: " ++ text
  | notHandlerValue text => "Niepoprawna wartość w znaczniku: " ++ text
  | notShare e => e.message

/-- Which file of a batch a failure is about. -/
def note (f : ProgramFile) : String := "jednostka " ++ f.kind.name ++ ": " ++ f.path.toString

end Failure

def orFailure {α : Type} (r : Except FileError α) : Except Failure α := r.mapError .file

@[simp] theorem orFailure_ok {α : Type} (a : α) : orFailure (.ok a) = .ok a := rfl

@[simp] theorem orFailure_error {α : Type} (e : FileError) :
    orFailure (.error e : Except FileError α) = .error (.file e) := rfl

end CardLogic
