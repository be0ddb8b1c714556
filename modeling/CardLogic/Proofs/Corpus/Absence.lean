import CardLogic.Proofs.Corpus.Calls

/-!
What a corpus does not have of a card.

A corpus omits a key if there is neither a file nor a row for it.  An operation that
meets no card of this key leaves it omitted, also if it fails half way: it fills the places of
the cards it meets, and writes rows for these beside those there were (`Omits.fills`).  What is
given of a removed card may have the key, since nothing is written for it.
-/

namespace CardLogic.Corpus

open FileTree ProgramFile

/-- There is nothing at the place of a card's file, and if there is a file of rows, then the
card's row is none of its lines. -/
structure Omits (home : Location) (key : String) (t : FileTree) : Prop where
  file : t.shapeAt (cardSlot home key).target = none
  row : ∀ content rows, t.shapeAt (sharedSlot home cardtreeName).target = some (.file content) →
    linesOf? content = some rows → cardRow key ∉ rows

/-- Rows that may be written where a key is omitted. -/
structure RowsWithout (key : String) (rows : List String) : Prop where
  isRow : ∀ row ∈ rows, IsRow row
  omits : cardRow key ∉ rows

/-- A key that stays in its segment and its line, and is not this one. -/
def OtherKey (key other : String) : Prop := PlainKey other ∧ other ≠ key

variable {c : Corpus} {home : Location} {key : String} {t t' : FileTree} {cards : List Card}
  {others : List ProgramFile} {rows : List String} {scope : Option CardTree}

namespace Omits

theorem congr (h : Omits home key t)
    (hsame : ∀ loc, programAt home <+: loc → t'.shapeAt loc = t.shapeAt loc) :
    Omits home key t' := by
  refine ⟨?_, fun content rows hcontent => ?_⟩
  · rw [hsame _ (programAt_isPrefix_cardSlot key)]
    exact h.file
  · rw [hsame _ (programAt_isPrefix_sharedSlot cardtreeName)] at hcontent
    exact h.row content rows hcontent

theorem of_readRows (h : Omits c.home key t) (hread : readRows t c.cardtreePath = .ok rows) :
    RowsWithout key rows := by
  refine ⟨fun row hrow => isRow_of_readRows hread hrow, ?_⟩
  rcases readRows_ok hread with rfl | ⟨loc, content, lines, hr, hfile, hlines, rfl⟩
  · simp
  · rw [← location_of_resolve hr, location_cardtreePath] at hfile
    exact fun hmem => h.row content lines hfile hlines (List.mem_of_mem_filter hmem)

/-- Writing files of other cards, and rows without that of the key, leaves the key omitted. -/
theorem fills (h : Omits c.home key t) (htag : IsTag c.tag)
    (hbase : FolderAt t c.project.base c.home) (hcards : ∀ card ∈ cards, card.key ≠ key)
    (hrows : ∀ f ∈ others, f.path.name = cardtreeName →
      ∃ rows, f.text = rowsText rows ∧ RowsWithout key rows)
    (hfills : c.Fills cards others t t') : Omits c.home key t' := by
  refine ⟨?_, fun content lines hcontent hlines => ?_⟩
  · rcases shapeAt_cardSlot htag hfills key with hsame | ⟨card, hcard, hkey, -⟩ |
      ⟨hnone, -, pre, hpre, hwhere⟩
    · exact hsame.trans h.file
    · exact absurd hkey (hcards card hcard)
    · -- Only folders above the place can be missing where the project is there.
      rw [hwhere] at hnone
      have hlength := congrArg List.length hwhere
      rcases eq_of_prefix hbase hpre hnone with heq | heq <;>
        simp [heq, cardSlot, Slot.target, cardsAt, programAt] at hlength
  · rcases shapeAt_cardtree htag hfills with hsame | ⟨f, hf, hname, hfile⟩ | ⟨-, hfolder⟩
    · exact h.row content lines (hsame.symm.trans hcontent) hlines
    · obtain ⟨rows, htext, hfor⟩ := hrows f hf hname
      rw [htext, hcontent] at hfile
      cases hfile
      rw [linesOf?_rowsText hfor.isRow] at hlines
      cases hlines
      exact hfor.omits
    · rw [hcontent] at hfolder
      exact absurd hfolder (by simp)

theorem emptied (h : Omits c.home key t) (hemptied : c.Emptied cards t t') :
    Omits c.home key t' := by
  refine ⟨?_, fun content rows hcontent => h.row content rows (hemptied.file hcontent)⟩
  by_cases hsame : t'.shapeAt (cardSlot c.home key).target = t.shapeAt (cardSlot c.home key).target
  · exact hsame.trans h.file
  · exact (hemptied _ hsame).2.2

end Omits

/-! ## Rows -/

theorem rowsWithout_rowsOf (hkeys : ∀ card ∈ cards, OtherKey key card.key) :
    RowsWithout key (rowsOf cards) := by
  refine ⟨fun row => isRow_rowsOf fun card hcard => (hkeys card hcard).1.oneLine, fun hmem => ?_⟩
  obtain ⟨card, hcard, heq⟩ := List.mem_map.mp hmem
  exact (hkeys card hcard).2 (cardRow_inj heq)

theorem RowsWithout.merge (h : RowsWithout key rows)
    (hkeys : ∀ card ∈ cards, OtherKey key card.key) :
    RowsWithout key (mergeRows rows (cards.map Card.key)) := by
  have hnew := rowsWithout_rowsOf hkeys
  refine ⟨fun row hrow => ?_, fun hrow => ?_⟩
  · exact (mem_mergeRows_keys.mp hrow).elim (h.isRow row) (hnew.isRow row)
  · exact (mem_mergeRows_keys.mp hrow).elim h.omits hnew.omits

theorem RowsWithout.taken (h : RowsWithout key rows) (cards : List Card) :
    RowsWithout key (otherRows cards rows) :=
  ⟨fun row hrow => h.isRow row (mem_otherRows.mp hrow).1,
    fun hmem => h.omits (mem_otherRows.mp hmem).1⟩

/-- Of the files that all cards share, only one has rows of cards. -/
theorem RowsWithout.sharedFiles (h : RowsWithout key rows) (rules : List RuleFile) :
    ∀ f ∈ c.sharedFiles rows rules, f.path.name = cardtreeName →
      ∃ rows, f.text = rowsText rows ∧ RowsWithout key rows := by
  intro f hf hname
  simp only [Corpus.sharedFiles, List.mem_cons, List.not_mem_nil, or_false] at hf
  rcases hf with rfl | rfl | rfl | rfl
  · exact ⟨rows, rfl, h⟩
  · exact absurd hname (by simp [ProgramFile.base]; decide)
  · exact absurd hname (by simp [ProgramFile.modules]; decide)
  · exact absurd hname (by simp [ProgramFile.main]; decide)

theorem RowsWithout.cardtree (h : RowsWithout key rows) :
    ∀ f ∈ [ProgramFile.cardtree c.folder rows], f.path.name = cardtreeName →
      ∃ rows, f.text = rowsText rows ∧ RowsWithout key rows := by
  intro f hf
  rw [List.mem_singleton.mp hf]
  exact h.sharedFiles [] _ List.mem_cons_self

/-! ## Operations that may fail -/

section Operations

variable {w : Workspace} (htag : IsTag c.tag)
include htag

/-- Cards that are written with other files. -/
theorem Omits.after_writeAll (h : Omits c.home key t)
    (hbase : FolderAt t c.project.base c.home) (hfills : c.Fills cards others t w.tree)
    (hkeys : ∀ card ∈ cards, OtherKey key card.key) (hothers : ∀ f ∈ others, c.IsShared f)
    (hrows : ∀ f ∈ others, f.path.name = cardtreeName →
      ∃ rows, f.text = rowsText rows ∧ RowsWithout key rows) :
    Omits c.home key (after (writeAll c.tag (cards.map c.cardFile ++ others)) w).tree := by
  rw [tree_after_writeAll]
  have hslash : ∀ card ∈ cards, '/' ∉ card.key.toList :=
    fun card hcard => (hkeys card hcard).1.noSlash
  exact h.fills htag hbase (fun card hcard => (hkeys card hcard).2) hrows
    (hfills.trans (fills_writeEach hslash hothers w.tree))

theorem Omits.after_generate (h : Omits c.home key w.tree)
    (hbase : FolderAt w.tree c.project.base c.home)
    (hkeys : (Call.generate scope).Keys c.project (OtherKey key) w.tree) :
    Omits c.home key (after (c.generate scope) w).tree := by
  have hother : ∀ cards, c.cardsInScope scope w.tree = .ok cards →
      ∀ card ∈ cards, OtherKey key card.key := by
    intro cards hcards
    cases scope with
    | none => exact hkeys.store.listed cards hcards
    | some tree =>
      exact keys_subtree (fun _ _ _ => hkeys.given tree (by simp [Call.given])) hkeys.store hcards
  have hmade : Omits c.home key (after (Disk.makeFolders c.cardsFolder) w.tree) :=
    h.fills htag hbase (fun _ hcard => absurd hcard List.not_mem_nil) (by simp)
      (fills_makeFolders c [] [] w.tree)
  refine kept_generate (Omits c.home key) h hmade fun cards others w₁ hcards hmakes _ hothers => ?_
  have hfills := fills_makeFolders c cards others w.tree
  rw [after_of_ok hmakes] at hfills hmade
  cases scope with
  | none =>
    obtain ⟨rules, -, rfl⟩ := otherFiles_none.mp hothers
    exact h.after_writeAll htag hbase hfills (hother _ hcards) (isShared_sharedFiles c _ rules)
      ((rowsWithout_rowsOf (hother _ hcards)).sharedFiles rules)
  | some tree =>
    obtain ⟨file, hfile, rfl⟩ := otherFiles_some.mp hothers
    obtain ⟨rows, hread, rfl⟩ := extendedCardtree_ok hfile
    exact h.after_writeAll htag hbase hfills (hother _ hcards) (isShared_cardtree c _)
      ((hmade.of_readRows hread).merge (hother _ hcards)).cardtree

theorem Omits.after_addCards {trees : List CardTree} (h : Omits c.home key w.tree)
    (hbase : FolderAt w.tree c.project.base c.home)
    (hstore : c.project.AllKeys (OtherKey key) w.tree)
    (hknown : ∀ found, c.project.findCards (trees.map fun tree => tree.card.key) w.tree =
      .ok found → ∀ tree ∈ trees, found.lookup tree.card.key ≠ none) :
    Omits c.home key (after (c.addCards trees) w).tree := by
  refine kept_addCards (Omits c.home key) h fun found rows _ hfound _ hread => ?_
  have hother : ∀ card ∈ takenIn found trees, OtherKey key card.key :=
    keys_takenIn (fun tree htree hnone => absurd hnone (hknown found hfound tree htree))
      (hstore.found _ _ hfound)
  exact h.after_writeAll htag hbase (OnlyFilled.refl _ _ _ _) hother (isShared_cardtree c _)
    ((h.of_readRows hread).merge hother).cardtree

/-- Nothing is asked of the cards that are removed. -/
theorem Omits.after_removeCards {tree : CardTree} (h : Omits c.home key w.tree)
    (hbase : FolderAt w.tree c.project.base c.home) :
    Omits c.home key (after (c.removeCards tree) w).tree := by
  have hemptied : ∀ cards, c.Emptied cards w.tree (after (c.removeFiles cards) w).tree :=
    fun cards => c.emptied_removeFiles cards w
  refine kept_removeCards (Omits c.home key) h (fun cards _ _ => h.emptied (hemptied cards))
    fun cards rows w₁ _ _ hremove hread => ?_
  -- Whatever becomes of the file of rows, it gets no row for the key.
  have hgone := hemptied cards
  rw [after_of_ok hremove] at hgone
  have hleft := h.emptied hgone
  have hfills : c.Fills [] _ w₁.tree _ :=
    fills_writeEach (by simp) (isShared_cardtree c (otherRows cards rows)) w₁.tree
  have hall := hleft.fills htag (hbase.of_kept fun _ => hgone.kept) (by simp)
    ((hleft.of_readRows hread).taken cards).cardtree hfills
  rw [List.map_nil, List.nil_append, writeEach_cons] at hall
  exact hall

end Operations

end CardLogic.Corpus
