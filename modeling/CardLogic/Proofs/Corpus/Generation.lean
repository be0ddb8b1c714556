import CardLogic.Proofs.Corpus.Endings
import CardLogic.Proofs.Project.Rules

/-!
What a full generation leaves behind.

Cards and rules are read, then everything is written as one batch, so the tree in the end
is the tree with the batch put into it (`whole_of_generate`).  Whatever the program folder
held before, it then holds the corpus of the cards that were read (`Holds`), and nothing
else is different.
-/

namespace CardLogic.Corpus

open FileTree ProgramFile

variable {c : Corpus} {home : Location} {cards : List Card} {w w' : Workspace}

/-! ## Any generation -/

/-- The steps of a generation that came to its end. -/
structure Steps (c : Corpus) (scope : Option CardTree) (cards : List Card)
    (others : List ProgramFile) (t t₁ t' : FileTree) : Prop where
  readCards : c.cardsInScope scope t = .ok cards
  makes : Disk.makeFolders c.cardsFolder t = .ok () t₁
  writable : ∀ card ∈ cards, card.isWritable = true
  readOthers : c.otherFiles scope cards t₁ = .ok others
  writes : writeEach c.tag (cards.map c.cardFile ++ others) t₁ = ([], t')

theorem steps_of_generate {scope : Option CardTree} {paths : List Path}
    (h : c.generate scope w = .ok paths w') :
    ∃ cards others t₁, c.Steps scope cards others w.tree t₁ w'.tree ∧
      paths = (cards.map c.cardFile ++ others).map ProgramFile.path := by
  have hends := c.generate_ends scope w
  rw [h] at hends
  cases hends with
  | writing listed makes writable readOthers ends =>
    obtain ⟨hpaths, hwritten⟩ := ok_of_writeAll ends
    exact ⟨_, _, _, ⟨listed, makes, writable, readOthers, hwritten⟩, hpaths⟩

/-- Once all is read, what is left of a generation is to write its batch. -/
theorem generate_eq_writeAll {scope : Option CardTree} {others : List ProgramFile} {t₁ : FileTree}
    (hcards : c.cardsInScope scope w.tree = .ok cards)
    (hmakes : Disk.makeFolders c.cardsFolder w.tree = .ok () t₁)
    (hwritable : ∀ card ∈ cards, card.isWritable = true)
    (hothers : c.otherFiles scope cards t₁ = .ok others) :
    ∃ w₁, w₁.tree = t₁ ∧
      c.generate scope w = writeAll c.tag (cards.map c.cardFile ++ others) w₁ := by
  have hends := c.generate_ends scope w
  generalize c.generate scope w = r at hends
  cases hends with
  | notListed fails => exact absurd (hcards.symm.trans fails) (by simp)
  | noFolder _ fails => exact absurd (hmakes.symm.trans fails) (by simp)
  | noText listed _ fails =>
    cases hcards.symm.trans listed
    exact absurd ((cardFiles_eq_ok.mpr ⟨hwritable, rfl⟩).symm.trans fails) (by simp)
  | noOthers listed makes fails =>
    cases hcards.symm.trans listed
    cases hmakes.symm.trans makes
    exact absurd (hothers.symm.trans fails) (by simp)
  | writing listed makes _ readOthers ends =>
    cases hcards.symm.trans listed
    cases hmakes.symm.trans makes
    cases hothers.symm.trans readOthers
    exact ⟨_, rfl, ends.symm⟩

theorem generate_of_steps {scope : Option CardTree} {others : List ProgramFile}
    {t₁ t' : FileTree} (h : c.Steps scope cards others w.tree t₁ t') :
    ∃ w', c.generate scope w = .ok ((cards.map c.cardFile ++ others).map ProgramFile.path) w' ∧
      w'.tree = t' := by
  obtain ⟨w₁, rfl, hgenerate⟩ :=
    generate_eq_writeAll h.readCards h.makes h.writable h.readOthers
  rw [hgenerate]
  exact writeAll_of_written h.writes

/-! ## The whole corpus -/

theorem otherFiles_none {t : FileTree} {others : List ProgramFile} :
    c.otherFiles none cards t = .ok others ↔
      ∃ rules, c.project.ruleFiles t = .ok rules ∧ others = c.sharedFiles (rowsOf cards) rules := by
  unfold otherFiles
  dsimp only
  cases c.project.ruleFiles t with
  | error e => simp [Except.map]
  | ok rules =>
    simp only [orFailure_ok, Except.map, Except.ok.injEq, exists_eq_left']
    exact eq_comm

theorem otherFiles_some {tree : CardTree} {t : FileTree} {others : List ProgramFile} :
    c.otherFiles (some tree) cards t = .ok others ↔
      ∃ file, c.extendedCardtree cards t = .ok file ∧ others = [file] := by
  unfold otherFiles
  dsimp only
  cases c.extendedCardtree cards t with
  | error e => simp [Except.map]
  | ok file =>
    simp only [Except.map, Except.ok.injEq, exists_eq_left']
    exact eq_comm

/-- A whole generation, with the batch it writes. -/
structure Whole (c : Corpus) (home : Location) (cards : List Card) (rules : List RuleFile)
    (t t₁ t' : FileTree) : Prop where
  readCards : c.project.cards t = .ok cards
  makes : Disk.makeFolders c.cardsFolder t = .ok () t₁
  folder : FolderAt t₁ c.cardsFolder (cardsAt home)
  readRules : c.project.ruleFiles t₁ = .ok rules
  room : ∀ x ∈ c.batch home cards (c.sharedFiles (rowsOf cards) rules), HasRoom c.tag t₁ x.1 x.2
  shapes : t'.shapeAt =
    putAll c.tag (c.batch home cards (c.sharedFiles (rowsOf cards) rules)) t₁.shapeAt

theorem whole_of_generate (hnames : w.tree.LegalNames) {paths : List Path}
    (h : c.generate none w = .ok paths w') :
    ∃ home cards rules t₁, c.Whole home cards rules w.tree t₁ w'.tree ∧
      paths =
        (cards.map c.cardFile ++ c.sharedFiles (rowsOf cards) rules).map ProgramFile.path := by
  obtain ⟨cards, others, t₁, ⟨hcards, hmakes, -, hothers, hwritten⟩, hpaths⟩ :=
    steps_of_generate h
  obtain ⟨rules, hrules, rfl⟩ := otherFiles_none.mp hothers
  obtain ⟨-, loc, hloc⟩ := Disk.madeAlong_makeFolders hmakes
  obtain ⟨home, hfolder⟩ := exists_home hloc
  have hlegal : ∀ card ∈ cards, LegalName card.key :=
    fun _ hcard => Project.legalName_of_mem_cards hnames hcards hcard
  have hslots := hasSlot_batch hfolder hlegal (isShared_sharedFiles c (rowsOf cards) rules)
  rw [← map_fst_batch c home] at hwritten
  obtain ⟨hroom, hshapes⟩ := writeEach_ok hslots hwritten
  exact ⟨home, cards, rules, t₁, ⟨hcards, hmakes, hfolder, hrules, hroom, hshapes⟩, hpaths⟩

/-- What can be generated: the cards and rules can be read and every file has room. -/
theorem generate_of_room {rules : List RuleFile} {t₁ : FileTree}
    (hcards : c.project.cards w.tree = .ok cards) (hlegal : ∀ card ∈ cards, LegalName card.key)
    (hmakes : Disk.makeFolders c.cardsFolder w.tree = .ok () t₁)
    (hfolder : FolderAt t₁ c.cardsFolder (cardsAt home))
    (hrules : c.project.ruleFiles t₁ = .ok rules)
    (hroom : ∀ x ∈ c.batch home cards (c.sharedFiles (rowsOf cards) rules),
      HasRoom c.tag t₁ x.1 x.2) :
    ∃ w', c.generate none w =
        .ok ((cards.map c.cardFile ++ c.sharedFiles (rowsOf cards) rules).map ProgramFile.path) w' ∧
      c.Whole home cards rules w.tree t₁ w'.tree := by
  have hslots := hasSlot_batch hfolder hlegal (isShared_sharedFiles c (rowsOf cards) rules)
  obtain ⟨t', hwritten, hshapes⟩ := writeEach_of_room hslots hroom
  rw [map_fst_batch] at hwritten
  have hsteps : c.Steps none cards (c.sharedFiles (rowsOf cards) rules) w.tree t₁ t' :=
    ⟨hcards, hmakes, fun _ hcard => Project.isWritable_of_mem_cards hcards hcard,
      otherFiles_none.mpr ⟨rules, hrules, rfl⟩, hwritten⟩
  obtain ⟨w', hgenerate, rfl⟩ := generate_of_steps hsteps
  exact ⟨w', hgenerate, hcards, hmakes, hfolder, hrules, hroom, hshapes⟩

/-! ## What it leaves behind -/

/-- A tree holds the corpus of these cards. -/
structure Holds (c : Corpus) (home : Location) (cards : List Card) (t : FileTree) : Prop where
  base : FolderAt t c.project.base home
  cardFiles : ∀ card ∈ cards, ∃ text, card.encode = .ok text ∧ text.isWhole = true ∧
    t.readBytes (c.cardPath card.key) = .ok (bytesOf text)
  cardtree : t.readBytes c.cardtreePath =
    .ok (bytesOf (rowsText (cards.map fun card => cardRow card.key)))
  baseFile : t.readBytes (c.folder.child baseName) = .ok (bytesOf baseText)
  mainFile : t.readBytes c.mainPath = .ok (bytesOf mainText)
  /-- One row for each rule file, with the path of that file, in the order of the names. -/
  modules : t.readBytes (c.folder.child modulesName) =
    .ok (bytesOf (rowsText ((Project.ruleTails t home).map fun tail =>
      includeRow (c.project.base.below tail).toString)))
  ordered : (Project.ruleTails t home).Pairwise fun a b => a < b
  rules : ∀ tail ∈ Project.ruleTails t home, t.shapeAt (home ++ tail) ≠ none ∧
    t.walk [] (c.project.base.below tail).segments = .ok (home ++ tail)

/-- The slots of a corpus of these cards. -/
def slots (home : Location) (cards : List Card) : List Slot :=
  cards.map (fun card => cardSlot home card.key) ++ sharedNames.map (sharedSlot home)

/-- Between two trees only the corpus of these cards became different, and folders were made
for it.  A file under a temporary name of this writer may have been there; it is gone. -/
def OnlyCorpus (c : Corpus) (home : Location) (cards : List Card) (t t' : FileTree) : Prop :=
  ∀ loc, t'.shapeAt loc ≠ t.shapeAt loc →
    (∃ s ∈ slots home cards,
      loc = s.target ∨ (loc = s.temporary c.tag ∧ t'.shapeAt loc = none)) ∨
    (t.shapeAt loc = none ∧ t'.shapeAt loc = some .folder ∧
      ∃ pre, pre <+: c.cardsFolder.segments ∧ t'.walk [] pre = .ok loc)

namespace Whole

variable {rules : List RuleFile} {t t₁ t' : FileTree}

theorem map_snd_batch (c : Corpus) (home : Location) (cards : List Card) (rules : List RuleFile) :
    (c.batch home cards (c.sharedFiles (rowsOf cards) rules)).map Prod.snd = slots home cards := by
  unfold batch slots
  rw [← map_name_sharedFiles c (rowsOf cards) rules, List.map_append, List.map_map, List.map_map,
    List.map_map]
  rfl

theorem legalNames (h : c.Whole home cards rules t t₁ t') (hparsed : c.project.base.Parsed)
    (hnames : t.LegalNames) : t₁.LegalNames := by
  obtain ⟨hmade, -⟩ := Disk.madeAlong_makeFolders h.makes
  refine hmade.legalNames ?_ h.folder.fits hnames
  intro s hs
  have hsegs : c.cardsFolder.segments =
      c.project.base.segments ++ [Project.programFolderName, ProgramFile.cardsFolder] := by
    simp [Corpus.cardsFolder, Corpus.folder, Project.programFolder, Path.child]
  rw [hsegs, List.mem_append] at hs
  rcases hs with hs | hs
  · exact hparsed s hs
  · have hall : ∀ s ∈ [Project.programFolderName, ProgramFile.cardsFolder],
        s ≠ "" ∧ s ≠ "." ∧ '/' ∉ s.toList := by decide
    exact hall s hs

/-- The batch takes no folder away and brings none. -/
theorem folder_iff (h : c.Whole home cards rules t t₁ t') (loc : Location) :
    t'.shapeAt loc = some .folder ↔ t₁.shapeAt loc = some .folder := by
  rw [h.shapes]
  exact folder_putAll_iff h.room loc

theorem kept (h : c.Whole home cards rules t t₁ t') (loc : Location)
    (hloc : t₁.shapeAt loc = some .folder) : t'.shapeAt loc = some .folder :=
  (h.folder_iff loc).mpr hloc

theorem placed (h : c.Whole home cards rules t t₁ t') (htag : IsTag c.tag)
    (hkeys : (cards.map Card.key).Nodup) (hlegal : ∀ card ∈ cards, LegalName card.key) :
    Placed c.tag (c.batch home cards (c.sharedFiles (rowsOf cards) rules)) t₁ t' :=
  ⟨hasSlot_batch h.folder hlegal (isShared_sharedFiles c (rowsOf cards) rules), h.room,
    apart_shared htag hkeys (rowsOf cards) rules, h.shapes⟩

/-- Outside the program folder nothing happened to the tree with the folders made. -/
theorem shapeAt_of_not_below (h : c.Whole home cards rules t t₁ t') {loc : Location}
    (hloc : ¬ programAt home <+: loc) : t'.shapeAt loc = t₁.shapeAt loc := by
  rw [h.shapes]
  exact putAll_batch_of_not_below (isShared_sharedFiles c (rowsOf cards) rules) hloc

theorem ruleTails_eq (h : c.Whole home cards rules t t₁ t') :
    Project.ruleTails t' home = Project.ruleTails t₁ home :=
  Project.ruleTails_congr fun rest =>
    h.shapeAt_of_not_below (not_below_programAt (by decide) rest)

theorem holds (h : c.Whole home cards rules t t₁ t') (htag : IsTag c.tag)
    (hparsed : c.project.base.Parsed) (hnames : t.LegalNames)
    (hkeys : (cards.map Card.key).Nodup) : c.Holds home cards t' := by
  have hlegal : ∀ card ∈ cards, LegalName card.key :=
    fun _ hcard => Project.legalName_of_mem_cards hnames h.readCards hcard
  have hbase := folderAt_base h.folder
  have hnames₁ := h.legalNames hparsed hnames
  have hplaced := h.placed htag hkeys hlegal
  have hshared : ∀ f ∈ c.sharedFiles (rowsOf cards) rules,
      t'.readBytes f.path = .ok (bytesOf f.text) := by
    intro f hf
    have hmem : (f, sharedSlot home f.path.name) ∈
        c.batch home cards (c.sharedFiles (rowsOf cards) rules) :=
      List.mem_append_right _ (List.mem_map.mpr ⟨f, hf, rfl⟩)
    exact hplaced.readBytes hmem
  refine ⟨hbase.of_kept h.kept, ?_, ?_, ?_, ?_, ?_, Project.pairwise_ruleTails t' home, ?_⟩
  · intro card hcard
    have hmem : (c.cardFile card, cardSlot home card.key) ∈
        c.batch home cards (c.sharedFiles (rowsOf cards) rules) :=
      List.mem_append_left _ (List.mem_map.mpr ⟨card, hcard, rfl⟩)
    exact ⟨card.text, Card.encode_eq_ok (Project.isWritable_of_mem_cards h.readCards hcard),
      (h.room _ hmem).whole, hplaced.readBytes hmem⟩
  · exact hshared (ProgramFile.cardtree c.folder (rowsOf cards)) (by simp [sharedFiles])
  · have hbaseFile := hshared (ProgramFile.base c.folder) (by simp [sharedFiles])
    dsimp only [ProgramFile.base] at hbaseFile
    exact hbaseFile
  · exact hshared (ProgramFile.main c.folder) (by simp [sharedFiles])
  · have hmodules := hshared (ProgramFile.modules c.folder rules) (by simp [sharedFiles])
    rw [h.ruleTails_eq, ← Project.filterMap_moduleRow? hnames₁ hbase h.readRules]
    exact hmodules
  · intro tail htail
    rw [h.ruleTails_eq] at htail
    have hwalk := Project.walk_ruleTails hnames₁ hbase htail
    obtain ⟨hshape, n, -, htail'⟩ := Project.mem_ruleTails.mp htail
    refine ⟨?_, walk_of_kept h.kept hwalk⟩
    have hnot : ¬ programAt home <+: home ++ tail := by
      rcases htail' with rfl | ⟨m, rfl⟩
      · exact not_below_programAt (by decide) _
      · exact not_below_programAt (by decide) _
    rw [h.shapeAt_of_not_below hnot]
    exact hshape

theorem onlyCorpus (h : c.Whole home cards rules t t₁ t') (htag : IsTag c.tag)
    (hkeys : (cards.map Card.key).Nodup) : c.OnlyCorpus home cards t t' := by
  intro loc hloc
  have hmem : ∀ x ∈ c.batch home cards (c.sharedFiles (rowsOf cards) rules),
      x.2 ∈ slots home cards := by
    intro x hx
    rw [← map_snd_batch c home cards rules]
    exact List.mem_map_of_mem hx
  by_cases hsame : t'.shapeAt loc = t₁.shapeAt loc
  · right
    rw [hsame] at hloc
    obtain ⟨hmade, -⟩ := Disk.madeAlong_makeFolders h.makes
    obtain ⟨hold, hnew, pre, hpre, hwalk⟩ := hmade loc hloc
    exact ⟨hold, hsame.trans hnew, pre, hpre, walk_of_kept h.kept hwalk⟩
  · left
    rw [h.shapes] at hsame ⊢
    by_cases htarget :
        ∃ x ∈ c.batch home cards (c.sharedFiles (rowsOf cards) rules), loc = x.2.target
    · obtain ⟨x, hx, heq⟩ := htarget
      exact ⟨x.2, hmem x hx, Or.inl heq⟩
    · by_cases htemporary :
        ∃ x ∈ c.batch home cards (c.sharedFiles (rowsOf cards) rules), loc = x.2.temporary c.tag
      · obtain ⟨⟨f, s⟩, hx, rfl⟩ := htemporary
        exact ⟨s, hmem _ hx, Or.inr ⟨rfl,
          putAll_temporary (apart_shared htag hkeys (rowsOf cards) rules) hx⟩⟩
      · exfalso
        refine hsame (putAll_of_ne ?_ ?_)
        · exact fun x hx heq => htarget ⟨x, hx, heq⟩
        · exact fun x hx heq => htemporary ⟨x, hx, heq⟩

/-- A project that was there has the store it had. -/
theorem cardShapes_eq (h : c.Whole home cards rules t t₁ t')
    (hbase : FolderAt t c.project.base home) (loc : Location) :
    Project.cardShapes t' home loc = Project.cardShapes t home loc := by
  obtain ⟨hmade, -⟩ := Disk.madeAlong_makeFolders h.makes
  have hnot : ¬ programAt home <+: home ++ Card.rootFolder :: loc :=
    not_below_programAt (by decide) loc
  unfold Project.cardShapes
  rw [h.shapeAt_of_not_below hnot]
  by_contra hne
  rcases eq_of_madeAlong hbase hmade h.folder hne with heq | heq
  · exact hnot ⟨[], by rw [heq, List.append_nil]⟩
  · exact hnot (by rw [heq]; exact List.prefix_append _ _)

theorem cards_eq (h : c.Whole home cards rules t t₁ t')
    (hbase : ∃ home, FolderAt t c.project.base home) : c.project.cards t' = .ok cards := by
  obtain ⟨home', hbase⟩ := hbase
  have hbase₁ := folderAt_base h.folder
  cases hbase.location_eq.symm.trans hbase₁.location_eq
  rw [← h.readCards]
  exact Project.cards_congr hbase (hbase₁.of_kept h.kept) (h.cardShapes_eq hbase)

/-- Generating once more, with the same cards, changes nothing. -/
theorem again (h : c.Whole home cards rules t t₁ w.tree) (htag : IsTag c.tag)
    (hkeys : (cards.map Card.key).Nodup) (hlegal : ∀ card ∈ cards, LegalName card.key)
    (hcards : c.project.cards w.tree = .ok cards) :
    ∃ w', c.generate none w =
        .ok ((cards.map c.cardFile ++ c.sharedFiles (rowsOf cards) rules).map ProgramFile.path) w' ∧
      w'.tree = w.tree := by
  have hfolder := h.folder.of_kept h.kept
  have hrules : c.project.ruleFiles w.tree = .ok rules := by
    rw [← h.readRules]
    exact Project.ruleFiles_congr (folderAt_base h.folder) (folderAt_base hfolder) fun rest =>
      h.shapeAt_of_not_below (not_below_programAt (by decide) rest)
  obtain ⟨w', hgenerate, hagain⟩ := generate_of_room hcards hlegal
    (Disk.makeFolders_of_folder hfolder) hfolder hrules
    fun x hx => (h.room x hx).of_folders fun loc hloc => (h.folder_iff loc).mp hloc
  refine ⟨w', hgenerate, ext_shapeAt fun loc => ?_⟩
  rw [hagain.shapes, h.shapes, putAll_putAll (apart_shared htag hkeys (rowsOf cards) rules)]

end Whole

end CardLogic.Corpus
