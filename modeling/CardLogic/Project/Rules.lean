import CardLogic.Project.Basic

/-!
The rule files that a project brings along: its own first, then those of its modules in
the order of their names.
-/

namespace CardLogic.Project

def rulesFolder : String := "calculations"

def ownFolder : String := "local"

def modulesFolder : String := "modules"

def isRuleName (name : String) : Bool := ".lp".toList.isSuffixOf name.toList

def ruleFilesIn (owner : String) (folder : Path) (entries : Entries) : List RuleFile :=
  (entries.filter fun e => isRuleName e.1).map fun e => ⟨owner ++ "/" ++ e.1, some folder⟩

def ruleFilesAt (owner : String) (folder : Path) : Option Node → List RuleFile
  | some (.folder entries) => ruleFilesIn owner folder entries
  | _ => []

def moduleFiles (path : Path) (name : String) : Node → List RuleFile
  | .file _ => []
  | .folder entries =>
    ruleFilesAt name ((path.child name).child rulesFolder) (Entries.get? entries rulesFolder)

def ruleFiles (p : Project) (t : FileTree) : Except FileError (List RuleFile) :=
  let own := ((p.base.child resourcesFolder).child ownFolder).child rulesFolder
  let modules := (p.base.child resourcesFolder).child modulesFolder
  match t.entry? own, t.entry? modules with
  | .error e, _ => .error e
  | _, .error e => .error e
  | .ok o, .ok (some (.folder entries)) =>
    .ok (ruleFilesAt ownFolder own o ++ entries.flatMap fun e => moduleFiles modules e.1 e.2)
  | .ok o, .ok _ => .ok (ruleFilesAt ownFolder own o)

end CardLogic.Project
