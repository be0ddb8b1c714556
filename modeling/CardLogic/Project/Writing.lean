import CardLogic.FileTree.TextFile
import CardLogic.Json.Writer
import CardLogic.Project.Basic

/-!
Writing a card into a project.
-/

namespace CardLogic.Project

/-- The folder of a card to be written.  A parent is the folder of all cards, known by
its name, or another card's folder. -/
def folderFor (parent : Path) (key : String) : Path :=
  (if parent.name = Card.rootFolder then parent else parent.child childrenFolder).join key

/-- A card's folder with a file of its fields, new or in place of the one that was there.
Fields that cannot be written are found out when the folder is there. -/
def writeCard (parent : Path) (key : String) (fields : Metadata) : Disk Path := do
  let folder := folderFor parent key
  Disk.makeFolders folder
  match Json.write (.object fields) with
  | .error e => throw ⟨.tooManyDigits e, folder.child metadataName, none⟩
  | .ok text => Disk.writeText (folder.child metadataName) text
  pure folder

end CardLogic.Project
