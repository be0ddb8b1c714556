import CardLogic.Proofs.Corpus.Layout
import CardLogic.Proofs.Program.Filling
import Mathlib.Data.List.Nodup

/-!
The places of a corpus in any tree.

The path of a project's folder leads to one location or to none, so it is known where the
files of its corpus go even if the project is not there.  What writing them can do at the
place of a card's file and at that of the rows is the same for all operations
(`shapeAt_cardSlot`, `shapeAt_cardtree`).  Cards may have one key: then the file of one of them
stands (`card_of_writeEach`).
-/

namespace CardLogic.Corpus

open FileTree ProgramFile

/-- Where the project's folder is, if it is there. -/
def home (c : Corpus) : Location := c.project.base.location

variable {c : Corpus} {cards : List Card} {others : List ProgramFile} {rows : List String}
  {key : String} {t t' : FileTree}

theorem location_folder (c : Corpus) : c.folder.location = programAt c.home :=
  Path.location_child _ (by decide)

theorem location_cardsFolder (c : Corpus) : c.cardsFolder.location = cardsAt c.home := by
  unfold cardsFolder
  rw [Path.location_child _ (by decide), location_folder]
  rfl

theorem location_cardtreePath (c : Corpus) :
    c.cardtreePath.location = (sharedSlot c.home cardtreeName).target := by
  unfold cardtreePath
  rw [Path.location_child _ (by decide), location_folder]
  rfl

theorem location_cardPath (c : Corpus) (hkey : '/' ∉ key.toList) :
    (c.cardPath key).location = (cardSlot c.home key).target := by
  rw [cardPath_eq c hkey, Path.location_child _ (cardName_ne_of_short (by decide) key),
    location_cardsFolder]
  rfl

/-! ## Batches -/

theorem parent_cardFile {card : Card} (hkey : '/' ∉ card.key.toList) :
    (c.cardFile card).path.parent = c.cardsFolder := by
  show (c.cardPath card.key).parent = _
  rw [cardPath_eq c hkey, Path.parent_child]

theorem leads_cardFile {card : Card} (hkey : '/' ∉ card.key.toList) :
    Leads (c.cardFile card) (cardSlot c.home card.key) := by
  have hparent : (c.cardFile card).path.parent = c.cardsFolder := parent_cardFile hkey
  refine ⟨cardName_ne_of_short (by decide) card.key, ?_, ?_⟩
  · rw [hparent]
    exact cardPath_eq c hkey
  · rw [hparent, location_cardsFolder]
    rfl

theorem leads_shared {f : ProgramFile} (hf : c.IsShared f) :
    Leads f (sharedSlot c.home f.path.name) := by
  obtain ⟨hn, hpath⟩ := path_sharedSlot hf
  have hparent : f.path.parent = c.folder := by rw [hpath, Path.parent_child]
  refine ⟨ne_up_of_mem_sharedNames hn, ?_, ?_⟩
  · rw [hparent]
    exact hpath
  · rw [hparent, location_folder]
    rfl

/-- Every file of a batch leads to its slot, on a way that begins the one to the cards' files. -/
theorem leads_batch (hkeys : ∀ card ∈ cards, '/' ∉ card.key.toList)
    (hothers : ∀ f ∈ others, c.IsShared f) :
    ∀ x ∈ c.batch c.home cards others,
      Leads x.1 x.2 ∧ x.1.path.parent.segments <+: c.cardsFolder.segments := by
  intro x hx
  rcases mem_batch.mp hx with ⟨card, hcard, rfl⟩ | ⟨f, hf, rfl⟩
  · refine ⟨leads_cardFile (hkeys card hcard), [], ?_⟩
    rw [parent_cardFile (hkeys card hcard), List.append_nil]
  · refine ⟨leads_shared (hothers f hf), ?_⟩
    rw [(path_sharedSlot (hothers f hf)).2, Path.parent_child]
    exact List.prefix_append _ _

/-- What writing files of a corpus can do, also if it fails. -/
def Fills (c : Corpus) (cards : List Card) (others : List ProgramFile) (t t' : FileTree) : Prop :=
  OnlyFilled c.tag c.cardsFolder.segments (c.batch c.home cards others) t t'

theorem fills_writeEach (hkeys : ∀ card ∈ cards, '/' ∉ card.key.toList)
    (hothers : ∀ f ∈ others, c.IsShared f) (t : FileTree) :
    c.Fills cards others t (writeEach c.tag (cards.map c.cardFile ++ others) t).2 := by
  have hleads := leads_batch hkeys hothers
  rw [← map_fst_batch c c.home]
  exact onlyFilled_writeEach (fun x hx => (hleads x hx).1) (fun x hx => (hleads x hx).2) t

theorem fills_makeFolders (c : Corpus) (cards : List Card) (others : List ProgramFile)
    (t : FileTree) : c.Fills cards others t (after (Disk.makeFolders c.cardsFolder) t) :=
  .of_madeAlong (Disk.madeAlong_after c.cardsFolder t)

/-- The place of a card's file is as it was, holds the file of a card of this key, or is that of
a folder that was missing. -/
theorem shapeAt_cardSlot (htag : IsTag c.tag) (h : c.Fills cards others t t') (key : String) :
    t'.shapeAt (cardSlot c.home key).target = t.shapeAt (cardSlot c.home key).target ∨
      (∃ card ∈ cards, card.key = key ∧
        card.text.StandsIn (t'.shapeAt (cardSlot c.home key).target)) ∨
      (t.shapeAt (cardSlot c.home key).target = none ∧
        t'.shapeAt (cardSlot c.home key).target = some .folder ∧
        ∃ pre, pre <+: c.cardsFolder.segments ∧ (cardSlot c.home key).target = landing [] pre) := by
  by_cases hsame : t'.shapeAt (cardSlot c.home key).target = t.shapeAt (cardSlot c.home key).target
  · exact Or.inl hsame
  obtain ⟨-, ⟨x, -, hx⟩ | ⟨x, hx, htarget, hfile⟩ | hmade⟩ := h _ hsame
  · exfalso
    have hname := (List.append_inj' hx rfl).2
    simp only [List.cons.injEq, and_true] at hname
    exact temporaryName_ne_cardName htag x.2.name key hname.symm
  · have hslot := Slot.target_inj htarget
    rcases mem_batch.mp hx with ⟨card, hcard, rfl⟩ | ⟨f, -, rfl⟩
    · exact Or.inr (Or.inl ⟨card, hcard, (cardSlot_inj hslot).symm, hfile⟩)
    · exact absurd hslot (cardSlot_ne_sharedSlot _ _)
  · exact Or.inr (Or.inr hmade)

/-- Where a project's folder is there, only two folders on the way to the cards' files can be
missing. -/
theorem eq_of_prefix (hbase : FolderAt t c.project.base c.home) {pre : List String}
    (hpre : pre <+: c.cardsFolder.segments) (hnone : t.shapeAt (landing [] pre) = none) :
    landing [] pre = programAt c.home ∨ landing [] pre = cardsAt c.home := by
  have hlast : pre <+: c.folder.segments ++ [ProgramFile.cardsFolder] := hpre
  rcases List.prefix_concat_iff.mp hlast with rfl | hpre
  · exact Or.inr (location_cardsFolder c)
  have hlast : pre <+: c.project.base.segments ++ [Project.programFolderName] := hpre
  rcases List.prefix_concat_iff.mp hlast with rfl | hpre
  · exact Or.inl (location_folder c)
  · obtain ⟨mid, hmid, hshape⟩ :=
      exists_walk_of_prefix hpre (resolve_eq_ok.mp hbase.resolve).2 hbase.shape
    rw [landing_of_walk hmid, hshape] at hnone
    exact absurd hnone (by simp)

/-- The file of the rows is as it was, holds the text of a file of its name, or is a folder that
was missing. -/
theorem shapeAt_cardtree (htag : IsTag c.tag) (h : c.Fills cards others t t') :
    t'.shapeAt (sharedSlot c.home cardtreeName).target =
        t.shapeAt (sharedSlot c.home cardtreeName).target ∨
      (∃ f ∈ others, f.path.name = cardtreeName ∧
        t'.shapeAt (sharedSlot c.home cardtreeName).target = some (.file (bytesOf f.text))) ∨
      (t.shapeAt (sharedSlot c.home cardtreeName).target = none ∧
        t'.shapeAt (sharedSlot c.home cardtreeName).target = some .folder) := by
  by_cases hsame : t'.shapeAt (sharedSlot c.home cardtreeName).target =
      t.shapeAt (sharedSlot c.home cardtreeName).target
  · exact Or.inl hsame
  obtain ⟨-, ⟨x, -, hx⟩ | ⟨x, hx, htarget, hfile⟩ | ⟨hnone, hfolder, -⟩⟩ := h _ hsame
  · exfalso
    have hname := (List.append_inj' hx rfl).2
    simp only [List.cons.injEq, and_true] at hname
    obtain ⟨k, hk⟩ := exists_cardName_of_mem_sharedNames (n := cardtreeName) (by decide)
    exact temporaryName_ne_cardName htag x.2.name k (hname.symm.trans hk)
  · have hslot := Slot.target_inj htarget
    rcases mem_batch.mp hx with ⟨card, -, rfl⟩ | ⟨f, hf, rfl⟩
    · exact absurd hslot.symm (cardSlot_ne_sharedSlot _ _)
    · exact Or.inr (Or.inl ⟨f, hf, (congrArg Slot.name hslot).symm, hfile.2⟩)
  · exact Or.inr (Or.inr ⟨hnone, hfolder⟩)

/-! ## Batches that were written -/

section Written

variable (htag : IsTag c.tag) (hkeys : ∀ card ∈ cards, '/' ∉ card.key.toList)
  (hothers : ∀ f ∈ others, c.IsShared f)
  (h : writeEach c.tag (cards.map c.cardFile ++ others) t = ([], t'))
include htag hkeys hothers h

theorem stands_of_mem_batch :
    ∀ x ∈ c.batch c.home cards others, ∃ y ∈ c.batch c.home cards others, y.2 = x.2 ∧
      y.1.text.StandsIn (t'.shapeAt x.2.target) := by
  have hleads := leads_batch hkeys hothers
  rw [← map_fst_batch c c.home] at h
  exact stands_of_writeEach (fun x hx => (hleads x hx).1) (fun x hx => (hleads x hx).2)
    (fun x _ y hy => temporary_ne_of_mem_batch htag hothers x.2 hy) h

theorem card_of_writeEach {card : Card} (hcard : card ∈ cards) :
    ∃ other ∈ cards, other.key = card.key ∧
      other.text.StandsIn (t'.shapeAt (cardSlot c.home card.key).target) := by
  obtain ⟨y, hy, hslot, hstands⟩ := stands_of_mem_batch htag hkeys hothers h _
    (mem_batch.mpr (Or.inl ⟨card, hcard, rfl⟩))
  rcases mem_batch.mp hy with ⟨other, hother, rfl⟩ | ⟨f, -, rfl⟩
  · exact ⟨other, hother, cardSlot_inj hslot, hstands⟩
  · exact absurd hslot.symm (cardSlot_ne_sharedSlot _ _)

theorem cardtree_of_writeEach (hnames : (others.map fun f => f.path.name).Nodup)
    (hmem : ProgramFile.cardtree c.folder rows ∈ others) :
    t'.shapeAt (sharedSlot c.home cardtreeName).target =
      some (.file (bytesOf (rowsText rows))) := by
  have hname : (ProgramFile.cardtree c.folder rows).path.name = cardtreeName :=
    Path.name_child _ _
  obtain ⟨y, hy, hslot, hstands⟩ := stands_of_mem_batch htag hkeys hothers h _
    (mem_batch.mpr (Or.inr ⟨_, hmem, rfl⟩))
  rcases mem_batch.mp hy with ⟨card, -, rfl⟩ | ⟨f, hf, rfl⟩
  · exact absurd hslot (cardSlot_ne_sharedSlot _ _)
  · have hsame : f = ProgramFile.cardtree c.folder rows :=
      List.inj_on_of_nodup_map hnames hf hmem (congrArg Slot.name hslot)
    rw [hsame, hname] at hstands
    exact hstands.2

end Written

/-- The file of rows is written after the cards' files, wherever these go. -/
theorem cardtree_of_writeEach_append {files : List ProgramFile} (htag : IsTag c.tag)
    (hothers : ∀ f ∈ others, c.IsShared f)
    (hnames : (others.map fun f => f.path.name).Nodup)
    (hmem : ProgramFile.cardtree c.folder rows ∈ others)
    (h : writeEach c.tag (files ++ others) t = ([], t')) :
    t'.shapeAt (sharedSlot c.home cardtreeName).target =
      some (.file (bytesOf (rowsText rows))) := by
  obtain ⟨t₁, -, hrest⟩ := ok_of_writeEach_append h
  have hbatch : writeEach c.tag (([] : List Card).map c.cardFile ++ others) t₁ = ([], t') := hrest
  exact cardtree_of_writeEach htag (by simp) hothers hbatch hnames hmem

end CardLogic.Corpus
