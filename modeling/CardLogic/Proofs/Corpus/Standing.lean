import CardLogic.Proofs.Corpus.Events
import CardLogic.Proofs.Project.Changes

/-!
A corpus that stands, and a corpus in step with its store.

A corpus stands for some cards if the program folder holds their files and nothing else,
with their rows in some order (`Stands`).  It is in step if these are the cards of a regular
store (`InStep`).  A change to the store leaves the corpus as it stands
(`Stands.of_onlyStore`).
-/

namespace CardLogic.Corpus

open FileTree ProgramFile

/-- Only the program folder became different, and no folder went. -/
structure OnlyProgram (home : Location) (t t' : FileTree) : Prop where
  kept : ∀ loc, t.shapeAt loc = some .folder → t'.shapeAt loc = some .folder
  elsewhere : ∀ loc, ¬ programAt home <+: loc → t'.shapeAt loc = t.shapeAt loc
  names : t.LegalNames → t'.LegalNames

/-- The path of a file leaves room for the temporary one. -/
structure Fitting (tag : String) (p : Path) : Prop where
  fits : (p.withName (temporaryName tag p.name)).Fits
  short : (temporaryName tag p.name).utf8ByteSize ≤ nameLimit

/-- The files that do not depend on the cards. -/
def steadyFiles (c : Corpus) (rules : List RuleFile) : List ProgramFile :=
  [ProgramFile.base c.folder, ProgramFile.modules c.folder rules, ProgramFile.main c.folder]

/-- The corpus of some cards, with these rows for them. -/
def filesOf (c : Corpus) (home : Location) (cards : List Card) (rows : List String)
    (rules : List RuleFile) : List (ProgramFile × Slot) :=
  c.batch home cards (c.sharedFiles rows rules)

/-- The program folder holds the corpus of these cards, with their rows in some order, and
there is room to write it anew. -/
structure Stands (c : Corpus) (home : Location) (cards : List Card) (rules : List RuleFile)
    (t : FileTree) : Prop where
  folder : FolderAt t c.cardsFolder (cardsAt home)
  readRules : c.project.ruleFiles t = .ok rules
  fitting : ∀ p ∈ c.wholePaths cards, Fitting c.tag p
  holds : ∃ rows, rows.Perm (rowsOf cards) ∧
    HoldsJust home (c.filesOf home cards rows rules) t.shapeAt

/-- The corpus is that of the cards in the store. -/
structure InStep (c : Corpus) (home : Location) (cards : List Card) (rules : List RuleFile)
    (t : FileTree) : Prop extends Stands c home cards rules t where
  regular : c.project.Regular home cards t

variable {c : Corpus} {home : Location} {cards cards' : List Card} {rows : List String}
  {rules : List RuleFile} {t t₁ t' : FileTree}

/-! ## Changes outside the store -/

theorem OnlyProgram.refl (home : Location) (t : FileTree) : OnlyProgram home t t :=
  ⟨fun _ h => h, fun _ _ => rfl, id⟩

theorem OnlyProgram.trans (h : OnlyProgram home t t₁) (h' : OnlyProgram home t₁ t') :
    OnlyProgram home t t' :=
  ⟨fun loc hloc => h'.kept loc (h.kept loc hloc),
    fun loc hloc => (h'.elsewhere loc hloc).trans (h.elsewhere loc hloc),
    fun hnames => h'.names (h.names hnames)⟩

theorem OnlyProgram.cardShapes_eq (h : OnlyProgram home t t') (loc : Location) :
    Project.cardShapes t' home loc = Project.cardShapes t home loc :=
  h.elsewhere _ (not_below_programAt (by decide) loc)

theorem OnlyProgram.regular (h : OnlyProgram home t t') (hreg : c.project.Regular home cards t) :
    c.project.Regular home cards t' :=
  hreg.congr (h.names hreg.names) (hreg.base.of_kept h.kept) h.cardShapes_eq

theorem OnlyProgram.ruleFiles_eq (h : OnlyProgram home t t')
    (hbase : FolderAt t c.project.base home) : c.project.ruleFiles t' = c.project.ruleFiles t :=
  Project.ruleFiles_congr hbase (hbase.of_kept h.kept) fun rest =>
    h.elsewhere _ (not_below_programAt (by decide) rest)

/-! ## Rows -/

theorem mem_rowsOf {row : String} :
    row ∈ rowsOf cards ↔ ∃ card ∈ cards, row = cardRow card.key := by
  unfold rowsOf
  rw [List.mem_map]
  exact ⟨fun ⟨card, hcard, h⟩ => ⟨card, hcard, h.symm⟩,
    fun ⟨card, hcard, h⟩ => ⟨card, hcard, h.symm⟩⟩

theorem rowsOf_eq (cards : List Card) : rowsOf cards = (cards.map Card.key).map cardRow := by
  unfold rowsOf
  rw [List.map_map]
  rfl

/-- There is one row for each card, so the rows are all different just if the keys are. -/
theorem nodup_rowsOf_iff : (rowsOf cards).Nodup ↔ (cards.map Card.key).Nodup := by
  rw [rowsOf_eq]
  exact List.nodup_map_iff fun _ _ => cardRow_inj

theorem cardRow_mem_rowsOf_iff {key : String} :
    cardRow key ∈ rowsOf cards ↔ key ∈ cards.map Card.key := by
  rw [rowsOf_eq]
  exact List.mem_map_of_injective fun _ _ => cardRow_inj

theorem isRow_of_perm (hreg : c.project.Regular home cards t) (hperm : rows.Perm (rowsOf cards)) :
    ∀ row ∈ rows, IsRow row := by
  intro row hrow
  obtain ⟨card, hcard, rfl⟩ := mem_rowsOf.mp (hperm.subset hrow)
  exact isRow_cardRow (hreg.oneLine card hcard)

/-- Rows are those of the cards if they are the same rows and none is repeated. -/
theorem perm_rowsOf (hkeys : (cards.map Card.key).Nodup) (hrows : rows.Nodup)
    (hmem : ∀ row, row ∈ rows ↔ ∃ card ∈ cards, row = cardRow card.key) :
    rows.Perm (rowsOf cards) :=
  (List.perm_ext_iff_of_nodup hrows (nodup_rowsOf_iff.mpr hkeys)).mpr fun row =>
    (hmem row).trans mem_rowsOf.symm

theorem nodup_of_perm (hkeys : (cards.map Card.key).Nodup) (hperm : rows.Perm (rowsOf cards)) :
    rows.Nodup := hperm.nodup_iff.mpr (nodup_rowsOf_iff.mpr hkeys)

/-! ## Files -/

theorem mem_sharedFiles {f : ProgramFile} :
    f ∈ c.sharedFiles rows rules ↔ f = ProgramFile.cardtree c.folder rows ∨
      f ∈ c.steadyFiles rules := by
  unfold sharedFiles
  exact List.mem_cons

theorem name_of_mem_steadyFiles {f : ProgramFile} (hf : f ∈ c.steadyFiles rules) :
    f.path.name ∈ [baseName, modulesName, mainName] := by
  simp only [steadyFiles, List.mem_cons, List.not_mem_nil, or_false] at hf
  rcases hf with rfl | rfl | rfl
  · show (c.folder.child baseName).name ∈ _
    rw [Path.name_child]
    decide
  · show (c.folder.child modulesName).name ∈ _
    rw [Path.name_child]
    decide
  · show (c.folder.child mainName).name ∈ _
    rw [Path.name_child]
    decide

theorem ne_of_mem_steadyNames {n : String} (hn : n ∈ [baseName, modulesName, mainName]) :
    n ≠ ProgramFile.cardsFolder ∧ n ≠ cardtreeName := by
  have hall : ∀ n ∈ [baseName, modulesName, mainName],
      n ≠ ProgramFile.cardsFolder ∧ n ≠ cardtreeName := by decide
  exact hall n hn

theorem name_ne_cardtreeName {f : ProgramFile} (hf : f ∈ c.steadyFiles rules) :
    f.path.name ≠ cardtreeName :=
  (ne_of_mem_steadyNames (name_of_mem_steadyFiles hf)).2

theorem exists_cardName_of_mem {x : ProgramFile × Slot}
    (hx : x ∈ c.filesOf home cards rows rules) : ∃ k, x.2.name = cardName k :=
  (slot_of_mem_batch (isShared_sharedFiles c rows rules) hx).2

theorem card_mem_filesOf {card : Card} (hcard : card ∈ cards) :
    (c.cardFile card, cardSlot home card.key) ∈ c.filesOf home cards rows rules :=
  mem_batch.mpr (Or.inl ⟨card, hcard, rfl⟩)

theorem steady_mem_filesOf {f : ProgramFile}
    (hf : f ∈ c.steadyFiles rules) :
    (f, sharedSlot home f.path.name) ∈ c.filesOf home cards rows rules :=
  mem_batch.mpr (Or.inr ⟨f, mem_sharedFiles.mpr (Or.inr hf), rfl⟩)

/-- A corpus has a file in the same slot whatever its rows. -/
theorem exists_same_slot {rows' : List String} {x : ProgramFile × Slot}
    (hcards : ∀ card ∈ cards, x.2 = cardSlot home card.key →
      ∃ card' ∈ cards', card'.key = card.key) (hx : x ∈ c.filesOf home cards rows rules) :
    ∃ y ∈ c.filesOf home cards' rows' rules, y.2 = x.2 := by
  rcases mem_batch.mp hx with ⟨card, hcard, rfl⟩ | ⟨f, hf, rfl⟩
  · obtain ⟨card', hcard', hkey⟩ := hcards card hcard rfl
    refine ⟨_, card_mem_filesOf hcard', ?_⟩
    rw [hkey]
  · rcases mem_sharedFiles.mp hf with rfl | hf
    · refine ⟨_, mem_batch.mpr (Or.inr ⟨ProgramFile.cardtree c.folder rows', ?_, rfl⟩), rfl⟩
      exact mem_sharedFiles.mpr (Or.inl rfl)
    · exact ⟨_, steady_mem_filesOf hf, rfl⟩

theorem exists_file_of_path {p : Path} (hp : p ∈ c.wholePaths cards) (rows : List String)
    (rules : List RuleFile) : ∃ x ∈ c.filesOf home cards rows rules, x.1.path = p := by
  rw [← map_path_sharedFiles c cards rows rules, ← map_fst_batch c home, List.map_map] at hp
  obtain ⟨x, hx, rfl⟩ := List.mem_map.mp hp
  exact ⟨x, hx, rfl⟩

theorem path_mem_wholePaths {x : ProgramFile × Slot}
    (hx : x ∈ c.filesOf home cards rows rules) : x.1.path ∈ c.wholePaths cards := by
  rw [← map_path_sharedFiles c cards rows rules, ← map_fst_batch c home, List.map_map]
  exact List.mem_map.mpr ⟨x, hx, rfl⟩

/-! ## The file of rows -/

theorem resolve_cardtreePath (hfolder : FolderAt t c.cardsFolder (cardsAt home))
    (hfitting : Fitting c.tag c.cardtreePath) :
    t.resolve c.cardtreePath = .ok (sharedSlot home cardtreeName).target := by
  have hslot := hasSlot_cardtree (folderAt_folder hfolder) []
  have hshort := hfitting.short
  rw [cardtreePath, Path.name_child] at hshort
  exact hslot.resolve_target hfitting.fits hshort

theorem cardtreePath_mem_wholePaths (c : Corpus) (cards : List Card) :
    c.cardtreePath ∈ c.wholePaths cards := List.mem_append_right _ List.mem_cons_self

theorem cardtree_mem_filesOf (c : Corpus) (home : Location) (cards : List Card)
    (rows : List String) (rules : List RuleFile) :
    (ProgramFile.cardtree c.folder rows, sharedSlot home cardtreeName) ∈
      c.filesOf home cards rows rules := by
  refine mem_batch.mpr (Or.inr ⟨_, mem_sharedFiles.mpr (Or.inl rfl), ?_⟩)
  rw [show (ProgramFile.cardtree c.folder rows).path.name = cardtreeName from Path.name_child _ _]

/-- The rows are read as they were written. -/
theorem readRows_of_stands (hfolder : FolderAt t c.cardsFolder (cardsAt home))
    (hfitting : ∀ p ∈ c.wholePaths cards, Fitting c.tag p) (hrows : ∀ row ∈ rows, IsRow row)
    {files : List (ProgramFile × Slot)} (hholds : HoldsJust home files t.shapeAt)
    (hmem : (ProgramFile.cardtree c.folder rows, sharedSlot home cardtreeName) ∈ files) :
    readRows t c.cardtreePath = .ok rows :=
  readRows_of_rowsText
    (resolve_cardtreePath hfolder (hfitting _ (cardtreePath_mem_wholePaths c cards)))
    (hholds.stands _ hmem).2 hrows

/-- A corpus that stands is there. -/
theorem Stands.isThere (h : Stands c home cards rules t) : c.isThere t = .ok true := by
  obtain ⟨rows, -, hholds⟩ := h.holds
  have hresolve :=
    resolve_cardtreePath h.folder (h.fitting _ (cardtreePath_mem_wholePaths c cards))
  have hstands := hholds.stands _ (cardtree_mem_filesOf c home cards rows rules)
  exact isThere_of_file (folderAt_folder h.folder) hresolve hstands.2

/-! ## Changes to the store -/

theorem not_below_store {n : String} (hn : n ≠ Card.rootFolder) (rest : Location) :
    ¬ home ++ [Card.rootFolder] <+: home ++ n :: rest := by
  rw [List.prefix_append_right_inj, List.cons_prefix_cons]
  exact fun h => hn h.1.symm

theorem shapeAt_of_onlyStore (h : Project.OnlyStore home t t') {loc : Location}
    (hloc : programAt home <+: loc) : t'.shapeAt loc = t.shapeAt loc := by
  obtain ⟨rest, rfl⟩ := hloc
  unfold programAt
  rw [List.append_assoc]
  exact h _ (not_below_store (by decide) rest)

theorem ruleFiles_of_onlyStore (h : Project.OnlyStore home t t')
    (hbase : FolderAt t c.project.base home) (hbase' : FolderAt t' c.project.base home) :
    c.project.ruleFiles t' = c.project.ruleFiles t :=
  Project.ruleFiles_congr hbase hbase' fun rest => h _ (not_below_store (by decide) rest)

theorem folderAt_cards (hbase : FolderAt t c.project.base home) (hfits : c.cardsFolder.Fits)
    (hprogram : t.shapeAt (programAt home) = some .folder)
    (hcards : t.shapeAt (cardsAt home) = some .folder) :
    FolderAt t c.cardsFolder (cardsAt home) := by
  have hfolder : FolderAt t c.folder (programAt home) :=
    ⟨hbase.resolve_child (by decide) (by decide) hfits.of_child, hprogram⟩
  exact ⟨hfolder.resolve_child (by decide) (by decide) hfits, hcards⟩

theorem below_of_mem_filesOf {x : ProgramFile × Slot}
    (hx : x ∈ c.filesOf home cards rows rules) : programAt home <+: x.2.folder :=
  below_programAt (isShared_sharedFiles c rows rules) hx

/-- A corpus stands as it stood after a change to the store. -/
theorem Stands.of_onlyStore (h : Stands c home cards rules t)
    (hstore : Project.OnlyStore home t t') (hbase : FolderAt t' c.project.base home) :
    Stands c home cards rules t' := by
  obtain ⟨rows, hperm, hholds⟩ := h.holds
  have hholds' : HoldsJust home (c.filesOf home cards rows rules) t'.shapeAt :=
    hholds.congr (fun _ => shapeAt_of_onlyStore hstore) fun _ => below_of_mem_filesOf
  refine ⟨folderAt_cards hbase h.folder.fits hholds'.program hholds'.cards, ?_, h.fitting, rows,
    hperm, hholds'⟩
  rw [ruleFiles_of_onlyStore hstore (folderAt_base h.folder) hbase]
  exact h.readRules

end CardLogic.Corpus
