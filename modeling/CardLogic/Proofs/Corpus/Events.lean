import CardLogic.Proofs.Corpus.Contents
import CardLogic.Proofs.Corpus.Generation
import CardLogic.Proofs.Corpus.Rows
import CardLogic.Proofs.FileTree.Effects
import CardLogic.Proofs.Project.Lookup

/-!
What keeping a corpus in step does to a tree, step by step.
-/

namespace CardLogic

namespace Corpus

open FileTree ProgramFile

variable {c : Corpus} {home : Location} {w w' : Workspace}

/-- There is a corpus where its folder and its file of rows are. -/
theorem isThere_of_file {t : FileTree} {content : ByteArray}
    (hfolder : FolderAt t c.folder (programAt home)) {loc : Location}
    (hr : t.resolve c.cardtreePath = .ok loc) (h : t.shapeAt loc = some (.file content)) :
    c.isThere t = .ok true := by
  unfold isThere
  rw [isFolder_eq_true.mpr ⟨_, hfolder⟩]
  dsimp only
  unfold isFile entry?
  rw [hr]
  dsimp only
  rw [shapeAt_eq_file.mp h]
  rfl

section Placed

variable {batch : List (ProgramFile × Slot)} {rows : List String} {t t' : FileTree}
  (h : Placed c.tag batch t t')
  (hmem : (ProgramFile.cardtree c.folder rows, sharedSlot home cardtreeName) ∈ batch)
include h hmem

/-- Where the file of rows was put, the rows are read again. -/
theorem readRows_of_placed (hrows : ∀ row ∈ rows, IsRow row) :
    readRows t' c.cardtreePath = .ok rows :=
  readRows_of_rowsText (h.resolve_after hmem) (h.stands hmem).2 hrows

theorem folder_of_placed : FolderAt t' c.folder (programAt home) := by
  have hfolder := (h.slots _ hmem).folder
  rw [show (ProgramFile.cardtree c.folder rows).path.parent = c.folder from
    Path.parent_child _ _] at hfolder
  exact hfolder.of_kept h.kept

theorem isThere_of_placed : c.isThere t' = .ok true :=
  isThere_of_file (folder_of_placed h hmem) (h.resolve_after hmem) (h.stands hmem).2

end Placed

theorem file_of_isThere {t : FileTree} (h : c.isThere t = .ok true) :
    ∃ loc content, FolderAt t c.folder loc ∧
      t.shapeAt (loc ++ [cardtreeName]) = some (.file content) := by
  unfold isThere at h
  cases hfolder : t.isFolder c.folder with
  | error e => rw [hfolder] at h; exact absurd h (by simp)
  | ok b =>
    rw [hfolder] at h
    cases b with
    | false => exact absurd h (by simp)
    | true =>
      obtain ⟨loc, content, hr, hfile⟩ := isFile_eq_true.mp h
      obtain ⟨a, ha, -, rfl⟩ := FolderAt.of_resolve_child (by decide) hr
      exact ⟨a, content, ha, hfile⟩

theorem subtree_ok {tree : CardTree} {t : FileTree} {cards : List Card}
    (h : c.subtree tree t = .ok cards) :
    ∃ found, c.project.findCards [tree.card.key] t = .ok found ∧
      cards = ((found.lookup tree.card.key).getD tree).cards := by
  unfold subtree Project.findCard? at h
  cases hfound : c.project.findCards [tree.card.key] t with
  | error e => rw [hfound] at h; exact absurd h (by simp [Except.map])
  | ok found => rw [hfound] at h; cases h; exact ⟨found, rfl, rfl⟩

theorem subtree_of_findCard? {tree found : CardTree} {t : FileTree}
    (h : c.project.findCard? tree.card.key t = .ok (some found)) :
    c.subtree tree t = .ok found.cards := by
  unfold subtree
  rw [h]
  rfl

/-! ## Cards that come -/

/-- The steps of taking cards in that came to its end. -/
structure AddSteps (c : Corpus) (trees : List CardTree) (found : List (String × CardTree))
    (rows : List String) (t t' : FileTree) : Prop where
  there : c.isThere t = .ok true
  finds : c.project.findCards (trees.map fun tree => tree.card.key) t = .ok found
  writable : ∀ card ∈ takenIn found trees, card.isWritable = true
  reads : readRows t c.cardtreePath = .ok rows
  writes : writeEach c.tag ((takenIn found trees).map c.cardFile ++
    [ProgramFile.cardtree c.folder (mergeRows rows ((takenIn found trees).map Card.key))]) t =
      ([], t')

theorem steps_of_addCards {trees : List CardTree} {paths : List Path}
    (hthere : c.isThere w.tree = .ok true) (h : c.addCards trees w = .ok paths w') :
    ∃ found rows, c.AddSteps trees found rows w.tree w'.tree ∧
      paths = ((takenIn found trees).map c.cardFile ++
        [ProgramFile.cardtree c.folder (mergeRows rows ((takenIn found trees).map Card.key))]).map
          ProgramFile.path := by
  have hends := c.addCards_ends trees w
  rw [h] at hends
  cases hends with
  | nothing missing => exact absurd (hthere.symm.trans missing) (by simp)
  | writing there finds writable reads ends =>
    obtain ⟨hpaths, hwrite⟩ := ok_of_writeAll ends
    exact ⟨_, _, ⟨there, finds, writable, reads, hwrite⟩, hpaths⟩

theorem isThere_or_of_addCards {trees : List CardTree} {paths : List Path}
    (h : c.addCards trees w = .ok paths w') :
    c.isThere w.tree = .ok true ∨ w'.tree = w.tree := by
  have hends := c.addCards_ends trees w
  rw [h] at hends
  cases hends with
  | nothing _ same => exact Or.inr same
  | writing there => exact Or.inl there

/-- Once all is read, what is left of taking cards in is to write their batch. -/
theorem addCards_eq_writeAll {trees : List CardTree} {found : List (String × CardTree)}
    {rows : List String} (hthere : c.isThere w.tree = .ok true)
    (hfinds : c.project.findCards (trees.map fun tree => tree.card.key) w.tree = .ok found)
    (hwritable : ∀ card ∈ takenIn found trees, card.isWritable = true)
    (hreads : readRows w.tree c.cardtreePath = .ok rows) :
    c.addCards trees w = writeAll c.tag ((takenIn found trees).map c.cardFile ++
      [ProgramFile.cardtree c.folder (mergeRows rows ((takenIn found trees).map Card.key))]) w := by
  have hends := c.addCards_ends trees w
  generalize c.addCards trees w = r at hends
  cases hends with
  | notAsked fails => exact absurd (hthere.symm.trans fails) (by simp)
  | nothing missing => exact absurd (hthere.symm.trans missing) (by simp)
  | notFound _ fails => exact absurd (hfinds.symm.trans fails) (by simp)
  | noText _ finds fails =>
    cases hfinds.symm.trans finds
    exact absurd ((cardFiles_eq_ok.mpr ⟨hwritable, rfl⟩).symm.trans fails) (by simp)
  | noRows _ _ fails => exact absurd (hreads.symm.trans fails) (by simp)
  | writing _ finds _ reads ends =>
    cases hfinds.symm.trans finds
    cases hreads.symm.trans reads
    exact ends.symm

theorem addCards_of_steps {trees : List CardTree} {found : List (String × CardTree)}
    {rows : List String} {t' : FileTree} (h : c.AddSteps trees found rows w.tree t') :
    ∃ w', c.addCards trees w = .ok (((takenIn found trees).map c.cardFile ++
        [ProgramFile.cardtree c.folder (mergeRows rows ((takenIn found trees).map Card.key))]).map
          ProgramFile.path) w' ∧ w'.tree = t' := by
  rw [addCards_eq_writeAll h.there h.finds h.writable h.reads]
  exact writeAll_of_written h.writes

theorem mem_of_mem_firstOfEachKey {cards : List Card} {card : Card}
    (h : card ∈ firstOfEachKey cards) : card ∈ cards := by
  induction cards with
  | nil => exact absurd h (by simp [firstOfEachKey])
  | cons first rest ih =>
    rw [firstOfEachKey] at h
    rcases List.mem_cons.mp h with rfl | h
    · exact List.mem_cons_self
    · exact List.mem_cons_of_mem first (ih (List.mem_of_mem_filter h))

/-- Every key keeps a card. -/
theorem exists_mem_firstOfEachKey {cards : List Card} {card : Card} (h : card ∈ cards) :
    ∃ other ∈ firstOfEachKey cards, other.key = card.key := by
  induction cards with
  | nil => exact absurd h (by simp)
  | cons first rest ih =>
    rw [firstOfEachKey]
    by_cases hkey : card.key = first.key
    · exact ⟨first, List.mem_cons_self, hkey.symm⟩
    · rcases List.mem_cons.mp h with rfl | h
      · exact absurd rfl hkey
      · obtain ⟨other, hother, hsame⟩ := ih h
        refine ⟨other, List.mem_cons_of_mem first (List.mem_filter.mpr ⟨hother, ?_⟩), hsame⟩
        rw [hsame]
        exact decide_eq_true hkey

theorem nodup_firstOfEachKey (cards : List Card) :
    ((firstOfEachKey cards).map Card.key).Nodup := by
  induction cards with
  | nil => exact List.nodup_nil
  | cons first rest ih =>
    rw [firstOfEachKey, List.map_cons, List.nodup_cons]
    refine ⟨?_, ?_⟩
    · intro hmem
      obtain ⟨other, hother, hkey⟩ := List.mem_map.mp hmem
      have hne := (List.mem_filter.mp hother).2
      rw [decide_eq_true_eq] at hne
      exact hne hkey
    · exact ih.sublist (List.filter_sublist.map _)

/-! ## Cards that go -/

/-- The steps of taking a card out that came to its end. -/
structure RemoveSteps (c : Corpus) (tree : CardTree) (affected : List Card) (rows : List String)
    (w w₁ : Workspace) (t' : FileTree) : Prop where
  there : c.isThere w.tree = .ok true
  finds : c.subtree tree w.tree = .ok affected
  removes : c.removeFiles affected w = .ok () w₁
  reads : readRows w₁.tree c.cardtreePath = .ok rows
  writes : (ProgramFile.cardtree c.folder (otherRows affected rows)).write c.tag w₁.tree = .ok () t'

theorem steps_of_removeCards {tree : CardTree} {keys : List String}
    (hthere : c.isThere w.tree = .ok true) (h : c.removeCards tree w = .ok keys w') :
    ∃ affected rows w₁, c.RemoveSteps tree affected rows w w₁ w'.tree ∧
      keys = keysOfRows affected rows := by
  have hends := c.removeCards_ends tree w
  rw [h] at hends
  cases hends with
  | nothing missing => exact absurd (hthere.symm.trans missing) (by simp)
  | done there finds removes reads writes =>
    exact ⟨_, _, _, ⟨there, finds, removes, reads, writes⟩, rfl⟩

theorem isThere_or_of_removeCards {tree : CardTree} {keys : List String}
    (h : c.removeCards tree w = .ok keys w') :
    c.isThere w.tree = .ok true ∨ w'.tree = w.tree := by
  have hends := c.removeCards_ends tree w
  rw [h] at hends
  cases hends with
  | nothing _ same => exact Or.inr same
  | done there => exact Or.inl there

theorem removeCards_of_steps {tree : CardTree} {affected : List Card} {rows : List String}
    {w₁ : Workspace} {t' : FileTree} (h : c.RemoveSteps tree affected rows w w₁ t') :
    ∃ w', c.removeCards tree w = .ok (keysOfRows affected rows) w' ∧ w'.tree = t' := by
  obtain ⟨hthere, hfinds, hremoves, hreads, hwrites⟩ := h
  have hends := c.removeCards_ends tree w
  generalize c.removeCards tree w = r at hends
  cases hends with
  | notAsked fails => exact absurd (hthere.symm.trans fails) (by simp)
  | nothing missing => exact absurd (hthere.symm.trans missing) (by simp)
  | notFound _ fails => exact absurd (hfinds.symm.trans fails) (by simp)
  | fileKept _ finds fails =>
    cases hfinds.symm.trans finds
    exact absurd (hremoves.symm.trans fails) (by simp)
  | noRows _ finds removes fails =>
    cases hfinds.symm.trans finds
    cases hremoves.symm.trans removes
    exact absurd (hreads.symm.trans fails) (by simp)
  | rowsKept _ finds removes reads fails =>
    cases hfinds.symm.trans finds
    cases hremoves.symm.trans removes
    cases hreads.symm.trans reads
    exact absurd (hwrites.symm.trans fails) (by simp)
  | done _ finds removes reads writes =>
    cases hfinds.symm.trans finds
    cases hremoves.symm.trans removes
    cases hreads.symm.trans reads
    cases hwrites.symm.trans writes
    exact ⟨_, rfl, rfl⟩

theorem mem_otherRows {cards : List Card} {rows : List String} {row : String} :
    row ∈ otherRows cards rows ↔ row ∈ rows ∧ ∀ card ∈ cards, row ≠ cardRow card.key := by
  unfold otherRows
  rw [List.mem_filter, decide_eq_true_eq, List.mem_map]
  constructor
  · intro h
    obtain ⟨hrow, hno⟩ := h
    exact ⟨hrow, fun card hcard heq => hno ⟨card, hcard, heq.symm⟩⟩
  · intro h
    obtain ⟨hrow, hno⟩ := h
    exact ⟨hrow, fun ⟨card, hcard, heq⟩ => hno card hcard heq.symm⟩

end Corpus

end CardLogic
