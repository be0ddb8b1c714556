import CardLogic.FileTree.TextFile
import CardLogic.Json.Reader
import CardLogic.Project.Basic

/-!
Reading the cards of a project from its folders.

A card is a folder with a file of fields; the cards below it lie in one folder inside.
Nothing is remembered between two readings, so a card that was added or removed in the
meantime is seen at once.
-/

namespace CardLogic.Project

def isCardFolder : Node → Bool
  | .file _ => false
  | .folder entries => (Entries.get? entries metadataName).any Node.isFile

def readFields (path : Path) (content : ByteArray) : Except Failure Metadata :=
  match textOf? content with
  | none => .error (.notText path)
  | some text =>
    match Json.read text with
    | .error .malformed => .error (.notJson path)
    | .error .tooDeep => .error (.tooDeep path)
    | .error (.tooManyDigits e) => .error (.tooManyDigits e)
    | .ok (.object fields) => .ok fields
    | .ok _ => .error (.notFields path)

def readMetadata (path : Path) (entries : Entries) : Except Failure Metadata :=
  let file := path.child metadataName
  match Entries.get? entries metadataName with
  | none => .error (.file ⟨.missing, file, none⟩)
  | some (.folder _) => .error (.file ⟨.isAFolder, file, none⟩)
  | some (.file content) => readFields file content

mutual

def readCard (path : Path) : Node → Except Failure CardTree
  | .file _ => .error (.file ⟨.notAFolder, path.child metadataName, none⟩)
  | .folder entries => do
    let fields ← readMetadata path entries
    let children ← readBelow (path.child childrenFolder) entries
    pure (.node ⟨path.name, path, some fields⟩ children)

/-- The cards below a card with these entries; `path` is their folder. -/
def readBelow (path : Path) : Entries → Except Failure (List CardTree)
  | [] => pure []
  | (n, d) :: es => if n = childrenFolder then readLevel path d else readBelow path es

/-- The cards directly in a folder, each with the cards below it. -/
def readLevel (path : Path) : Node → Except Failure (List CardTree)
  | .file _ => pure []
  | .folder entries => readEach path entries

def readEach (path : Path) : Entries → Except Failure (List CardTree)
  | [] => pure []
  | (n, d) :: es =>
    if isCardFolder d then do
      let tree ← readCard (path.child n) d
      let trees ← readEach path es
      pure (tree :: trees)
    else readEach path es

end

def trees (p : Project) (t : FileTree) : Except Failure (List CardTree) :=
  match t.entry? p.cardRoot with
  | .error e => .error (.file e)
  | .ok none => .ok []
  | .ok (some d) => readLevel p.cardRoot d

/-- The cards of a project, every card before those below it. -/
def cards (p : Project) (t : FileTree) : Except Failure (List Card) :=
  (p.trees t).map CardTree.listing

end CardLogic.Project
