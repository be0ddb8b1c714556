import CardLogic.Decimal.Numeral
import CardLogic.Decimal.Shortest
import CardLogic.Decimal.Whole
import CardLogic.Text.Quoted

/-!
Settings of the solver, and how environment variables give them.
-/

namespace CardLogic.Solver

inductive TimeLimit where
  | whole (n : Int)
  | real (x : Binary64)
  deriving DecidableEq, Repr

structure Settings where
  binary : String
  /-- `none` lets the solver run on. -/
  timeLimit : Option TimeLimit
  /-- How many program files may be written at a time. -/
  workers : Int
  deriving DecidableEq, Repr

inductive SettingsError where
  | notReal (text : String)
  | notWhole (e : Decimal.WholeError)
  | tooFewWorkers (workers : Int)
  deriving DecidableEq, Repr

def SettingsError.message : SettingsError → String
  | notReal text =>
    "could not convert string to float: " ++ String.ofList (Text.quoted text)
  | notWhole e => e.message
  | tooFewWorkers n => "CARDCALC_WORKERS musi być >= 1, podano " ++ Decimal.showInt n

namespace Settings

def defaultBinary : String := "clingo"

def defaultLimit : Binary64 := Binary64.ofDecimal false 60 0

def defaultWorkers : Int := 8

def default : Settings := ⟨defaultBinary, some (.real defaultLimit), defaultWorkers⟩

/-- The environment variables that give settings: the executable, the limit in seconds
and the number of workers. -/
def binaryVariable : String := "CARDCALC_CLINGO"

def limitVariable : String := "CARDCALC_SOLVER_TIMEOUT"

def workersVariable : String := "CARDCALC_WORKERS"

def variableNames : List String := [binaryVariable, limitVariable, workersVariable]

def limitText : Option TimeLimit → String
  | none => "None"
  | some (.whole n) => Decimal.showInt n
  | some (.real x) => Decimal.plain.render x

/-- The settings that the environment gives.  The limit is read before the number of
workers; a limit that is not positive means that there is none. -/
def ofEnvironment (lookup : String → Option String) : Except SettingsError Settings := do
  let limit ←
    match lookup limitVariable with
    | none => pure defaultLimit
    | some text =>
      match Decimal.readReal? text with
      | some x => pure x
      | none => throw (.notReal text)
  let workers ←
    match lookup workersVariable with
    | none => pure defaultWorkers
    | some text => (Decimal.readWhole text).mapError .notWhole
  if workers < 1 then throw (.tooFewWorkers workers)
  pure {
    binary := (lookup binaryVariable).getD defaultBinary
    timeLimit := if limit.isPositive then some (.real limit) else none
    workers }

end Settings

end CardLogic.Solver
