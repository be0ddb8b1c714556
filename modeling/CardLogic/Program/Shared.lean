import CardLogic.Program.File

/-!
The files that are the same for all cards of a project.
-/

namespace CardLogic.ProgramFile

set_option maxRecDepth 4000 in
/-- The rules that every project shares.  Their characters are spelled out, so that to write
them is not to decode them. -/
def baseChars : {chars : List Char // String.ofList chars = "
%
% Wspólne definicje dla wszystkich projektów kart
%

% rodzic i przodek
ancestor(A, C) :- parent(A, C), card(A), card(C).
ancestor(A, C) :- parent(A, B), ancestor(B, C), card(A), card(B), card(C).

% jeśli podano typ karty, to jest to karta
card(C) :- field(C, \"cardtype\", _).

% pola domyślne nie są wyliczane, więc oznaczamy je jako pola użytkownika
userfield(Cardkey, \"cardtype\") :- field(Cardkey, \"cardtype\", _).
userfield(Cardkey, \"summary\") :- field(Cardkey, \"cardtype\", _).
userfield(Cardkey, \"workflowState\") :- field(Cardkey, \"cardtype\", _).

% jeśli wszystkie wartości pola są kluczami kart, pole ma typ \"cardkeys\"
fieldtype(X, Field, \"cardkeys\") :- field(X, Field, _), card(Value) : field(X, Field, Value).
"} :=
  ⟨_, rfl⟩

def baseText : Text := Text.ofChars baseChars.val

def mainText : String :=
  "\n" ++ rowsText [includeRow baseName, includeRow cardtreeName, includeRow modulesName]

/-! ## The files of a program folder -/

def base (folder : Path) : ProgramFile := ⟨.base, folder.child baseName, baseText⟩

def main (folder : Path) : ProgramFile := ⟨.main, folder.child mainName, mainText⟩

def modules (folder : Path) (files : List RuleFile) : ProgramFile :=
  ⟨.modules, folder.child modulesName, rowsText (files.filterMap moduleRow?)⟩

def cardtree (folder : Path) (rows : List String) : ProgramFile :=
  ⟨.cardtree, folder.child cardtreeName, rowsText rows⟩

end CardLogic.ProgramFile
