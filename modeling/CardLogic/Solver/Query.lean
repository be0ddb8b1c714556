import CardLogic.Path

/-!
What the solver is asked, and how it is started.

The query shows the derived fields of one card and nothing that its author wrote.
-/

namespace CardLogic.Solver

def query (key : String) : String :=
  "\n#show.\n#show field(Cardkey, Field, Value):\n    field(Cardkey, Field, Value),\n    Cardkey = "
    ++ key ++ ",\n    not userfield(Cardkey, Field).\n"
    ++ "#show fieldtype(Cardkey, Field, Fieldtype):\n    fieldtype(Cardkey, Field, Fieldtype),\n"
    ++ "    Cardkey = "
    ++ key ++ ",\n    not userfield(Cardkey, Field).\n"

/-- The solver's command line: the query comes on standard input, each atom goes on a
line of its own, and nothing else is told. -/
def commandLine (binary : String) (main : Path) : List String :=
  [binary, "-", "--outf=0", "--out-ifs=\\n", "-V0", main.toString]

/-- What to tell a user who has no solver. -/
def guidance (platform : String) : String :=
  let hint :=
    if platform = "darwin" then "MacOS: \"brew install clingo\"."
    else if platform.startsWith "win" || platform.startsWith "cygwin" then
      "Windows: pobierz źródła i skompiluj nową wersję."
    else
      "Linux: sprawdź, czy dystrybucja zawiera gotowy pakiet. "
        ++ "W przeciwnym razie pobierz źródła i skompiluj."
  "Nie znaleziono \"Clingo\". Zainstaluj \"Clingo\".\n" ++ hint

end CardLogic.Solver
