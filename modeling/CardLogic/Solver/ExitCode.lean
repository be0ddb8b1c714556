/-!
Exit codes of the solver.

A code is a set of bits, and a condition holds when all its bits are set.  The
conditions overlap: three of them share the lowest bit.  Only the lowest eight bits
of a code matter, whatever its sign and size.
-/

namespace CardLogic.Solver

inductive Condition where
  | unknown
  | interrupted
  | satisfiable
  | exhausted
  | outOfMemory
  | failed
  | notRun
  deriving DecidableEq, Repr

namespace Condition

def all : List Condition :=
  [unknown, interrupted, satisfiable, exhausted, outOfMemory, failed, notRun]

def bits : Condition → Nat
  | unknown => 0
  | interrupted => 1
  | satisfiable => 10
  | exhausted => 20
  | outOfMemory => 33
  | failed => 65
  | notRun => 128

def name : Condition → String
  | unknown => "UNKNOWN"
  | interrupted => "INTERRUPT"
  | satisfiable => "SAT"
  | exhausted => "EXHAUST"
  | outOfMemory => "MEMORY"
  | failed => "ERROR"
  | notRun => "NO_RUN"

def description : Condition → String
  | unknown => "Nieznany błąd"
  | interrupted => "Przerwano"
  | satisfiable => "Spełnialny"
  | exhausted => "Przeszukano całą przestrzeń"
  | outOfMemory => "Brak pamięci"
  | failed => "Błąd"
  | notRun => "Nie uruchomiono"

/-- The conditions that make a run a failure, in the order in which they are told. -/
def failures : List Condition := [failed, interrupted, outOfMemory, notRun]

end Condition

namespace ExitCode

/-- The lowest eight bits of a code, negative codes taken as two's complement. -/
def low (code : Int) : Nat := (code % 256).toNat

/-- Whether all bits of a condition are set.  The condition without bits never
holds. -/
def holds (code : Int) (c : Condition) : Bool :=
  c ≠ .unknown && low code &&& c.bits == c.bits

/-- The whole space was searched, a solution found, and nothing failed. -/
def isSuccess (code : Int) : Bool :=
  holds code .satisfiable && holds code .exhausted && !holds code .failed

/-- What went wrong: nothing for a success, and the unknown condition if no named one
holds. -/
def failing (code : Int) : List Condition :=
  if isSuccess code then []
  else
    match Condition.failures.filter (holds code) with
    | [] => [.unknown]
    | found => found

end ExitCode

end CardLogic.Solver
