import CardLogic.Corpus.Events
import CardLogic.Corpus.Generation
import CardLogic.Proofs.Corpus.Layout
import CardLogic.Proofs.Workspace

/-!
How the operations on a corpus end.

A generation, the taking in of cards and the taking out of cards each read and act in a fixed
order, and each ends at the first step that fails.  What is known then, and what was done, is said
here once for every step (`generate_ends`, `addCards_ends`, `removeCards_ends`).  Where it does not
matter how an operation ended, what is left is one of a few trees (`kept_generate`, `kept_addCards`,
`kept_removeCards`).
-/

namespace CardLogic.Corpus

open FileTree ProgramFile

/-- The cards that are taken in for some trees: those found, else those given. -/
def takenIn (found : List (String × CardTree)) (trees : List CardTree) : List Card :=
  firstOfEachKey (CardTree.listing (asFound found trees))

/-- How a generation ends. -/
inductive GenerateEnds (c : Corpus) (scope : Option CardTree) (w : Workspace) :
    EStateM.Result Failure Workspace (List Path) → Prop
  | notListed {f : Failure} (fails : c.cardsInScope scope w.tree = .error f) :
      GenerateEnds c scope w (.error f w)
  | noFolder {cards : List Card} {e : FileError} {t : FileTree}
      (listed : c.cardsInScope scope w.tree = .ok cards)
      (fails : Disk.makeFolders c.cardsFolder w.tree = .error e t) :
      GenerateEnds c scope w (.error (.file e) { w with tree := t })
  | noText {cards : List Card} {f : Failure} {w' : Workspace}
      (listed : c.cardsInScope scope w.tree = .ok cards)
      (makes : Disk.makeFolders c.cardsFolder w.tree = .ok () w'.tree)
      (fails : c.cardFiles cards = .error f) : GenerateEnds c scope w (.error f w')
  | noOthers {cards : List Card} {f : Failure} {w' : Workspace}
      (listed : c.cardsInScope scope w.tree = .ok cards)
      (makes : Disk.makeFolders c.cardsFolder w.tree = .ok () w'.tree)
      (fails : c.otherFiles scope cards w'.tree = .error f) : GenerateEnds c scope w (.error f w')
  /-- All was read, and the batch is written. -/
  | writing {cards : List Card} {others : List ProgramFile} {w₁ : Workspace}
      {r : EStateM.Result Failure Workspace (List Path)}
      (listed : c.cardsInScope scope w.tree = .ok cards)
      (makes : Disk.makeFolders c.cardsFolder w.tree = .ok () w₁.tree)
      (writable : ∀ card ∈ cards, card.isWritable = true)
      (readOthers : c.otherFiles scope cards w₁.tree = .ok others)
      (ends : writeAll c.tag (cards.map c.cardFile ++ others) w₁ = r) : GenerateEnds c scope w r

/-- How taking cards in ends. -/
inductive AddEnds (c : Corpus) (trees : List CardTree) (w : Workspace) :
    EStateM.Result Failure Workspace (List Path) → Prop
  | notAsked {e : FileError} (fails : c.isThere w.tree = .error e) :
      AddEnds c trees w (.error (.file e) w)
  | nothing {w' : Workspace} (missing : c.isThere w.tree = .ok false) (same : w'.tree = w.tree) :
      AddEnds c trees w (.ok [] w')
  | notFound {f : Failure} (there : c.isThere w.tree = .ok true)
      (fails : c.project.findCards (trees.map fun tree => tree.card.key) w.tree = .error f) :
      AddEnds c trees w (.error f w)
  | noText {found : List (String × CardTree)} {f : Failure} (there : c.isThere w.tree = .ok true)
      (finds : c.project.findCards (trees.map fun tree => tree.card.key) w.tree = .ok found)
      (fails : c.cardFiles (takenIn found trees) = .error f) : AddEnds c trees w (.error f w)
  | noRows {found : List (String × CardTree)} {f : Failure} (there : c.isThere w.tree = .ok true)
      (finds : c.project.findCards (trees.map fun tree => tree.card.key) w.tree = .ok found)
      (fails : readRows w.tree c.cardtreePath = .error f) : AddEnds c trees w (.error f w)
  /-- All was read, and the batch is written. -/
  | writing {found : List (String × CardTree)} {rows : List String}
      {r : EStateM.Result Failure Workspace (List Path)} (there : c.isThere w.tree = .ok true)
      (finds : c.project.findCards (trees.map fun tree => tree.card.key) w.tree = .ok found)
      (writable : ∀ card ∈ takenIn found trees, card.isWritable = true)
      (reads : readRows w.tree c.cardtreePath = .ok rows)
      (ends : writeAll c.tag ((takenIn found trees).map c.cardFile ++
        [ProgramFile.cardtree c.folder (mergeRows rows ((takenIn found trees).map Card.key))]) w =
          r) : AddEnds c trees w r

/-- How taking a card and the cards below it out ends. -/
inductive RemoveEnds (c : Corpus) (tree : CardTree) (w : Workspace) :
    EStateM.Result Failure Workspace (List String) → Prop
  | notAsked {e : FileError} (fails : c.isThere w.tree = .error e) :
      RemoveEnds c tree w (.error (.file e) w)
  | nothing {w' : Workspace} (missing : c.isThere w.tree = .ok false) (same : w'.tree = w.tree) :
      RemoveEnds c tree w (.ok [] w')
  | notFound {f : Failure} (there : c.isThere w.tree = .ok true)
      (fails : c.subtree tree w.tree = .error f) : RemoveEnds c tree w (.error f w)
  | fileKept {affected : List Card} {f : Failure} {w' : Workspace}
      (there : c.isThere w.tree = .ok true) (finds : c.subtree tree w.tree = .ok affected)
      (fails : c.removeFiles affected w = .error f w') : RemoveEnds c tree w (.error f w')
  | noRows {affected : List Card} {f : Failure} {w' : Workspace}
      (there : c.isThere w.tree = .ok true) (finds : c.subtree tree w.tree = .ok affected)
      (removes : c.removeFiles affected w = .ok () w')
      (fails : readRows w'.tree c.cardtreePath = .error f) : RemoveEnds c tree w (.error f w')
  | rowsKept {affected : List Card} {rows : List String} {e : FileError} {w₁ w' : Workspace}
      (there : c.isThere w.tree = .ok true) (finds : c.subtree tree w.tree = .ok affected)
      (removes : c.removeFiles affected w = .ok () w₁)
      (reads : readRows w₁.tree c.cardtreePath = .ok rows)
      (fails : (ProgramFile.cardtree c.folder (otherRows affected rows)).write c.tag w₁.tree =
        .error e w'.tree) : RemoveEnds c tree w (.error (.file e) w')
  | done {affected : List Card} {rows : List String} {w₁ w' : Workspace}
      (there : c.isThere w.tree = .ok true) (finds : c.subtree tree w.tree = .ok affected)
      (removes : c.removeFiles affected w = .ok () w₁)
      (reads : readRows w₁.tree c.cardtreePath = .ok rows)
      (writes : (ProgramFile.cardtree c.folder (otherRows affected rows)).write c.tag w₁.tree =
        .ok () w'.tree) : RemoveEnds c tree w (.ok (keysOfRows affected rows) w')

variable {c : Corpus} {cards : List Card} {t : FileTree}

/-! ## What is read -/

theorem extendedCardtree_ok {f : ProgramFile} (h : c.extendedCardtree cards t = .ok f) :
    ∃ rows, readRows t c.cardtreePath = .ok rows ∧
      f = ProgramFile.cardtree c.folder (mergeRows rows (cards.map Card.key)) := by
  obtain ⟨rows, hrows, hf⟩ := Except.ok_of_map h
  exact ⟨rows, hrows, hf.symm⟩

theorem error_of_extendedCardtree {f : Failure} (h : c.extendedCardtree cards t = .error f) :
    readRows t c.cardtreePath = .error f := by
  unfold extendedCardtree at h
  cases hread : readRows t c.cardtreePath with
  | error e => rw [hread] at h; cases h; rfl
  | ok rows => rw [hread] at h; cases h

theorem extendedCardtree_of_readRows {rows : List String}
    (h : readRows t c.cardtreePath = .ok rows) : c.extendedCardtree cards t =
      .ok (ProgramFile.cardtree c.folder (mergeRows rows (cards.map Card.key))) := by
  unfold extendedCardtree
  rw [h]
  rfl

/-! ## The operations -/

theorem generate_ends (c : Corpus) (scope : Option CardTree) (w : Workspace) :
    c.GenerateEnds scope w (c.generate scope w) := by
  unfold generate
  cases hcards : c.cardsInScope scope w.tree with
  | error f =>
    rw [Action.bind_of_error (Action.read_of_error hcards)]
    exact .notListed hcards
  | ok cards =>
    rw [Action.bind_of_ok (Action.read_of_ok hcards)]
    cases hmakes : Disk.makeFolders c.cardsFolder w.tree with
    | error e t =>
      rw [Action.bind_of_error (Action.disk_of_error hmakes)]
      exact .noFolder hcards hmakes
    | ok u t =>
      rw [Action.bind_of_ok (Action.disk_of_ok hmakes)]
      cases hfiles : c.cardFiles cards with
      | error f =>
        rw [Action.bind_of_error (Action.read_of_error (f := fun _ => .error f) rfl)]
        exact .noText hcards hmakes hfiles
      | ok files =>
        rw [Action.bind_of_ok (Action.read_of_ok (f := fun _ => .ok files) rfl)]
        obtain ⟨hwritable, rfl⟩ := cardFiles_eq_ok.mp hfiles
        cases hothers : c.otherFiles scope cards t with
        | error f =>
          rw [Action.bind_of_error (Action.read_of_error hothers)]
          exact .noOthers hcards hmakes hothers
        | ok others =>
          rw [Action.bind_of_ok (Action.read_of_ok hothers), Action.tell_bind]
          refine .writing hcards ?_ hwritable ?_ rfl
          · exact hmakes
          · exact hothers

theorem addCards_ends (c : Corpus) (trees : List CardTree) (w : Workspace) :
    c.AddEnds trees w (c.addCards trees w) := by
  unfold addCards
  cases hthere : c.isThere w.tree with
  | error e =>
    rw [Action.bind_of_error (Action.read_of_error (by rw [hthere]; rfl))]
    exact .notAsked hthere
  | ok there =>
    rw [Action.bind_of_ok (Action.read_of_ok (by rw [hthere]; rfl))]
    cases there with
    | false => exact .nothing hthere rfl
    | true =>
      rw [if_pos rfl]
      cases hfound : c.project.findCards (trees.map fun tree => tree.card.key) w.tree with
      | error f =>
        rw [Action.bind_of_error (Action.read_of_error hfound)]
        exact .notFound hthere hfound
      | ok found =>
        rw [Action.bind_of_ok (Action.read_of_ok hfound)]
        -- The cards that are taken in, by their name.
        change c.AddEnds trees w ((Action.read (fun _ => c.cardFiles (takenIn found trees)) >>=
          fun files => Action.read (c.extendedCardtree (takenIn found trees)) >>=
            fun cardtree => writeAll c.tag (files ++ [cardtree])) w)
        cases hfiles : c.cardFiles (takenIn found trees) with
        | error f =>
          rw [Action.bind_of_error (Action.read_of_error (f := fun _ => .error f) rfl)]
          exact .noText hthere hfound hfiles
        | ok files =>
          rw [Action.bind_of_ok (Action.read_of_ok (f := fun _ => .ok files) rfl)]
          obtain ⟨hwritable, rfl⟩ := cardFiles_eq_ok.mp hfiles
          cases hreads : c.extendedCardtree (takenIn found trees) w.tree with
          | error f =>
            rw [Action.bind_of_error (Action.read_of_error hreads)]
            exact .noRows hthere hfound (error_of_extendedCardtree hreads)
          | ok cardtree =>
            rw [Action.bind_of_ok (Action.read_of_ok hreads)]
            obtain ⟨rows, hrows, rfl⟩ := extendedCardtree_ok hreads
            exact .writing hthere hfound hwritable hrows rfl

theorem removeCards_ends (c : Corpus) (tree : CardTree) (w : Workspace) :
    c.RemoveEnds tree w (c.removeCards tree w) := by
  unfold removeCards
  cases hthere : c.isThere w.tree with
  | error e =>
    rw [Action.bind_of_error (Action.read_of_error (by rw [hthere]; rfl))]
    exact .notAsked hthere
  | ok there =>
    rw [Action.bind_of_ok (Action.read_of_ok (by rw [hthere]; rfl))]
    cases there with
    | false => exact .nothing hthere rfl
    | true =>
      rw [if_pos rfl]
      cases hfinds : c.subtree tree w.tree with
      | error f =>
        rw [Action.bind_of_error (Action.read_of_error hfinds)]
        exact .notFound hthere hfinds
      | ok affected =>
        rw [Action.bind_of_ok (Action.read_of_ok hfinds)]
        cases hremoves : c.removeFiles affected w with
        | error f w₁ =>
          rw [Action.bind_of_error hremoves]
          exact .fileKept hthere hfinds hremoves
        | ok u w₁ =>
          rw [Action.bind_of_ok hremoves]
          cases hreads : readRows w₁.tree c.cardtreePath with
          | error f =>
            rw [Action.bind_of_error (Action.read_of_error hreads)]
            exact .noRows hthere hfinds hremoves hreads
          | ok rows =>
            rw [Action.bind_of_ok (Action.read_of_ok hreads)]
            cases hwrite : (ProgramFile.cardtree c.folder (otherRows affected rows)).write c.tag
                w₁.tree with
            | error e t =>
              rw [Action.bind_of_error (Action.disk_of_error hwrite)]
              exact .rowsKept hthere hfinds hremoves hreads hwrite
            | ok u t =>
              rw [Action.bind_of_ok (Action.disk_of_ok hwrite), Action.tell_bind]
              exact .done hthere hfinds hremoves hreads hwrite

/-! ## What is left behind -/

section Kept

variable {w : Workspace} (I : FileTree → Prop)

/-- What a generation leaves is the tree before, with the folders made or not, or what writing the
batch leaves. -/
theorem kept_generate {scope : Option CardTree} (hsame : I w.tree)
    (hmade : I (after (Disk.makeFolders c.cardsFolder) w.tree))
    (hwrites : ∀ cards others w₁, c.cardsInScope scope w.tree = .ok cards →
      Disk.makeFolders c.cardsFolder w.tree = .ok () w₁.tree →
      (∀ card ∈ cards, card.isWritable = true) → c.otherFiles scope cards w₁.tree = .ok others →
        I (after (writeAll c.tag (cards.map c.cardFile ++ others)) w₁).tree) :
    I (after (c.generate scope) w).tree := by
  have hends := c.generate_ends scope w
  unfold after
  generalize c.generate scope w = r at hends
  cases hends with
  | notListed => exact hsame
  | noFolder _ fails => exact after_of_error fails ▸ hmade
  | noText _ makes => exact after_of_ok makes ▸ hmade
  | noOthers _ makes => exact after_of_ok makes ▸ hmade
  | writing listed makes writable readOthers ends =>
    subst ends
    exact hwrites _ _ _ listed makes writable readOthers

/-- What taking cards in leaves is the tree before, or what writing the batch leaves. -/
theorem kept_addCards {trees : List CardTree} (hsame : I w.tree)
    (hwrites : ∀ found rows, c.isThere w.tree = .ok true →
      c.project.findCards (trees.map fun tree => tree.card.key) w.tree = .ok found →
      (∀ card ∈ takenIn found trees, card.isWritable = true) →
      readRows w.tree c.cardtreePath = .ok rows →
        I (after (writeAll c.tag ((takenIn found trees).map c.cardFile ++
          [ProgramFile.cardtree c.folder (mergeRows rows ((takenIn found trees).map Card.key))]))
            w).tree) :
    I (after (c.addCards trees) w).tree := by
  have hends := c.addCards_ends trees w
  unfold after
  generalize c.addCards trees w = r at hends
  cases hends with
  | notAsked => exact hsame
  | nothing _ same => exact same.symm ▸ hsame
  | notFound => exact hsame
  | noText => exact hsame
  | noRows => exact hsame
  | writing there finds writable reads ends =>
    subst ends
    exact hwrites _ _ there finds writable reads

/-- What taking a card out leaves is the tree before, or what removing the files leaves, or what
writing the rows then leaves. -/
theorem kept_removeCards {tree : CardTree} (hsame : I w.tree)
    (hremoves : ∀ affected, c.isThere w.tree = .ok true → c.subtree tree w.tree = .ok affected →
      I (after (c.removeFiles affected) w).tree)
    (hwrites : ∀ affected rows w₁, c.isThere w.tree = .ok true →
      c.subtree tree w.tree = .ok affected → c.removeFiles affected w = .ok () w₁ →
      readRows w₁.tree c.cardtreePath = .ok rows →
        I (after ((ProgramFile.cardtree c.folder (otherRows affected rows)).write c.tag)
          w₁.tree)) :
    I (after (c.removeCards tree) w).tree := by
  have hends := c.removeCards_ends tree w
  unfold after
  generalize c.removeCards tree w = r at hends
  cases hends with
  | notAsked => exact hsame
  | nothing _ same => exact same.symm ▸ hsame
  | notFound => exact hsame
  | fileKept there finds fails => exact after_of_error fails ▸ hremoves _ there finds
  | noRows there finds removes => exact after_of_ok removes ▸ hremoves _ there finds
  | rowsKept there finds removes reads fails =>
    exact after_of_error fails ▸ hwrites _ _ _ there finds removes reads
  | done there finds removes reads writes =>
    exact after_of_ok writes ▸ hwrites _ _ _ there finds removes reads

end Kept

end CardLogic.Corpus
