import CardLogic.CommandLine.Markup
import CardLogic.CommandLine.Request
import CardLogic.CommandLine.Table
import CardLogic.Engine

/-!
Commands carried out, and what they print.

An end other than the one asked for, and program files that could not be written, are
told on the output, with an exit code of one.  Every other failure is left to the
caller.
-/

namespace CardLogic.CommandLine

/-- What a command line leaves on its output, and its exit code. -/
structure Report where
  output : String
  code : Nat
  deriving DecidableEq, Repr

/-- What commands need to know of the place where they run. -/
structure Environment where
  /-- The values of environment variables. -/
  valueOf : String → Option String
  solver : Solver.Program
  /-- Tells temporary files of this run from those of others. -/
  tag : String

def versionText : String := "cardcalc 0.1.0"

namespace Environment

def engine (env : Environment) : Except Failure Engine :=
  (Solver.Settings.ofEnvironment env.valueOf).mapError .settings |>.map fun settings =>
    { settings, solver := env.solver, tag := env.tag }

end Environment

namespace Report

/-! ## Messages -/

/-- The cells in a line of the terminal, for either command. -/
def generateWidth : Nat := 1000

def runWidth : Nat := 200

/-- Why a text with a flawed mark is not printed. -/
def failure (text : String) : Markup.Flaw → Failure
  | .unmatched => .unmatchedMark text
  | .handler => .notHandlerValue text
  | .share e => .notShare e

def plainText (text : String) : Except Failure String :=
  (Markup.plainText text).mapError (failure text)

def checkStyles (text : String) : Except Failure Unit :=
  (Markup.checkStyles text).mapError (failure text)

def messageLines (limit : Nat) (message : String) : Except Failure (List (List Char)) := do
  let text ← plainText message
  checkStyles message
  pure (Screen.lines limit text)

def printed (limit : Nat) (messages : List String) : Except Failure String :=
  (messages.mapM (messageLines limit)).map fun lines => Screen.render lines.flatten

def ofMessages (limit code : Nat) (messages : List String) : Except Failure Report :=
  (printed limit messages).map fun output => ⟨output, code⟩

def refusal (limit : Nat) (message : String) : Except Failure Report :=
  ofMessages limit 1 [Markup.styled "red" message]

/-- The report on an end: the message, unless there is a result. -/
def ofOutcome {α : Type} (limit : Nat) (f : α → Except Failure Report) :
    Outcome α → Except Failure Report
  | .done a => f a
  | .rejected m => refusal limit m
  | .unavailable m => ofMessages limit 1 [Markup.styled "yellow" m]
  | .overdue m => refusal limit m

/-! ## Generating -/

def noFolder (project : Path) : Except Failure Report :=
  ofMessages generateWidth 1
    [Markup.styled "red" "Brak folderu projektu:" ++ " " ++ project.toString]

def notWritten (total : Nat) (failed : List (ProgramFile × FileError)) : Except Failure Report :=
  ofMessages generateWidth 1
    (Markup.styled "red" (Failure.notWritten total failed).message
      :: failed.map fun f => "  " ++ Markup.styled "red" "•" ++ " " ++ f.2.message)

/-- What was asked for; the empty text is no key. -/
def scope (card : Option String) : String :=
  match card.filter (· ≠ "") with
  | none => "cały projekt"
  | some key => "poddrzewo " ++ Markup.styled "cyan" key

def generated (project : Path) (card : Option String) (files : List Path) :
    Except Failure Report :=
  ofMessages generateWidth 0
    ["Wygenerowano obliczenia (" ++ scope card ++ "): "
      ++ Markup.styled "green" (Decimal.showNat files.length) ++ " plików w "
      ++ Markup.styled "bold" (project.child Project.programFolderName).toString]

/-! ## Running -/

def header : List String := ["KARTA", "POLE", "WARTOŚĆ"]

def cells (d : Solver.Derived) : List String :=
  [d.cardKey.toString, d.field.toString, d.value.toString]

/-- The cells of a table without their marks.  The columns are read one after the other, and
the styles row by row after that. -/
def plainRows (rows : List (List String)) : Except Failure (List (List String)) := do
  let columns ← (List.range header.length).mapM fun i =>
    rows.mapM fun row => plainText (row.getD i "")
  rows.forM fun row => row.forM checkStyles
  pure ((List.range rows.length).map fun i => columns.map (·.getD i ""))

def derived (key : String) (fields : List Solver.Derived) : Except Failure Report :=
  if fields = [] then
    ofMessages runWidth 0
      [Markup.styled "yellow" ("Brak wyliczonych pól dla karty " ++ key ++ ".")]
  else do
    let rows ← plainRows (fields.map cells)
    let count ← printed runWidth
      ["  " ++ Markup.styled "dim" (Decimal.showNat fields.length ++ " wyliczonych wartości")]
    return ⟨Screen.render ((Table.mk header rows).lines runWidth) ++ count, 0⟩

end Report

/-- Generates the program of a project, whose folder has to be there. -/
def generate (env : Environment) (project : Path) (card : Option String) : Action Report := do
  if ← Action.read fun t => orFailure (t.isFolder project) then
    let engine ← Action.read fun _ => env.engine
    let report ←
      try
        let outcome ← engine.generate project (card.getD "")
        pure (Report.ofOutcome Report.generateWidth (Report.generated project card) outcome)
      catch
        | .notWritten total failed => pure (Report.notWritten total failed)
        | e => throw e
    Action.read fun _ => report
  else
    Action.read fun _ => Report.noFolder project

def run (env : Environment) (project : Path) (key : String) : Action Report := do
  let engine ← Action.read fun _ => env.engine
  let outcome ← engine.run project key
  Action.read fun _ => Report.ofOutcome Report.runWidth (Report.derived key) outcome

def Command.report (env : Environment) : Command → Action Report
  | .generate project card => CommandLine.generate env (Path.ofString project) card
  | .run project card => CommandLine.run env (Path.ofString project) card

def Request.report (env : Environment) : Request → Action Report
  | help => pure ⟨"", 0⟩
  | version => pure ⟨versionText ++ "\n", 0⟩
  | misuse => pure ⟨"", 2⟩
  | command _ c => c.report env

def execute (env : Environment) (words : List String) : Action Report :=
  (Request.ofLine words).report env

end CardLogic.CommandLine
