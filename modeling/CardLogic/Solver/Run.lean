import CardLogic.Outcome
import CardLogic.Solver.ExitCode
import CardLogic.Solver.Output
import CardLogic.Solver.Query
import CardLogic.Solver.Settings

/-!
A run of the solver, and what its end means.

Anything on standard output counts as an answer, whatever the exit code.  Silence with
a complaint and an exit code other than zero means that the rules are wrong; silence
alone means that there is no working solver.
-/

namespace CardLogic.Solver

open Text

structure Invocation where
  arguments : List String
  input : String
  timeLimit : Option TimeLimit
  deriving DecidableEq, Repr

/-- How the operating system reports the end of a start. -/
inductive Ending where
  | finished (output errors : Option String) (code : Option Int)
  /-- There is no such executable, or it must not be run. -/
  | notStarted (reason : String)
  | timedOut
  deriving DecidableEq, Repr

/-- A solver is known by how its starts end. -/
abbrev Program := Invocation → Ending

def platform : String := "linux"

def rejectionMessage : String := "Clingo error"

/-- What the log says of a code that is not a success. -/
def complaints (code : Int) : List LogRecord :=
  if code < 0 then
    [⟨.error, "Proces clingo zakończony sygnałem " ++ Decimal.showInt (-code)⟩]
  else
    (ExitCode.failing code).map fun c =>
      ⟨.error, c.description ++ " (kod wyjścia clingo: " ++ Decimal.showInt code ++ ")"⟩

def hasText (s : Option Text) : Bool := !(s.getD []).isEmpty

/-- What a finished run means, and what the log says of it. -/
def classify (output errors : Option Text) (code : Option Int) :
    Outcome (List Derived) × List LogRecord :=
  if hasText output then
    let text := output.getD []
    (.done (derived text), (Verdict.ofOutput text).remarks)
  else if hasText errors ∧ code.getD 0 ≠ 0 then
    let told := stripEnd (errors.getD [])
    (.rejected rejectionMessage,
      ⟨.debug, "clingo stderr:\n" ++ told⟩ :: complaints (code.getD 0))
  else (.unavailable (guidance platform), [])

/-- The start that asks for a card's derived fields. -/
def invocation (settings : Settings) (main : Path) (key : String) : Invocation where
  arguments := commandLine settings.binary main
  input := query key
  timeLimit := settings.timeLimit

/-- What the end of a start means, and what the log says of it. -/
def interpret (settings : Settings) : Ending → Outcome (List Derived) × List LogRecord
  | .finished output errors code =>
    classify (output.map Text.ofString) (errors.map Text.ofString) code
  | .notStarted reason =>
    (.unavailable (guidance platform), [⟨.debug, "Nie można uruchomić clingo: " ++ reason⟩])
  | .timedOut =>
    let limit := Settings.limitText settings.timeLimit
    let text := "Clingo nie zakończył pracy w ciągu " ++ limit ++ " s"
    (.overdue text, [⟨.error, text⟩])

/-- The end of a run, with the log of the whole run. -/
def run (settings : Settings) (solver : Program) (main : Path) (key : String) :
    Outcome (List Derived) × List LogRecord :=
  let start := invocation settings main key
  let (outcome, log) := interpret settings (solver start)
  (outcome, ⟨.debug, "Uruchamiam: " ++ " ".intercalate start.arguments⟩ :: log)

end CardLogic.Solver
