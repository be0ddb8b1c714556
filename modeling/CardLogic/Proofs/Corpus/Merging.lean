import CardLogic.Proofs.Corpus.BrokenOff
import CardLogic.Proofs.Corpus.Calls
import CardLogic.Proofs.Project.Writing

/-!
Cards merged into a corpus.

A generation for a card and the taking in of new cards do the same: the files of some cards are
written, and the rows of those that have none yet are put behind the rows there are, whatever these
are (`merged_of_generate`, `merged_of_addCards`).  Nothing is lost, nothing is repeated and nothing
else is different (`merges_of_action`); and since what is there is not added again, to do it once
more changes nothing.
-/

namespace CardLogic.Corpus

open FileTree ProgramFile

/-- What puts cards beside those that a corpus has. -/
inductive Merge where
  /-- A card and those below it are written anew. -/
  | generate (tree : CardTree)
  | add (trees : List CardTree)

namespace Merge

def action (c : Corpus) : Merge → Action (List Path)
  | generate tree => c.generate (some tree)
  | add trees => c.addCards trees

/-- The cards in question: those at and below a card, or at and below some cards, of each key the
first. -/
def scope (c : Corpus) (t : FileTree) : Merge → Except Failure (List Card)
  | generate tree => c.subtree tree t
  | add trees => (c.project.findCards (trees.map fun tree => tree.card.key) t).map fun found =>
      takenIn found trees

/-- Cards are taken into a corpus that is there; a generation can be the first. -/
def Applies (c : Corpus) (t : FileTree) : Merge → Prop
  | generate _ => True
  | add _ => c.isThere t = .ok true

end Merge

/-- The files of a merge, with these rows before. -/
def mergeBatch (c : Corpus) (cards : List Card) (rows : List String) : List (ProgramFile × Slot) :=
  c.batch c.home cards [ProgramFile.cardtree c.folder (mergeRows rows (cards.map Card.key))]

/-- The places of the files that a merge writes. -/
def mergeSlots (c : Corpus) (cards : List Card) : List Slot :=
  cards.map (fun card => cardSlot c.home card.key) ++ [sharedSlot c.home cardtreeName]

/-- The rows in a tree: the lines of the file of rows but the blank ones, and none without the
file. -/
inductive RowsAt (c : Corpus) (t : FileTree) : List String → Prop where
  | lines {content : ByteArray} {rows : List String}
      (file : t.shapeAt (sharedSlot c.home cardtreeName).target = some (.file content))
      (text : linesOf? content = some rows) :
      RowsAt c t (rows.filter fun row => !Text.allBlank row.toList)
  | missing (file : ∀ content,
      t.shapeAt (sharedSlot c.home cardtreeName).target ≠ some (.file content)) : RowsAt c t []

/-- Cards were merged into a corpus.  That another call finds the same cards is to be known: it
does if the path of the project led to one place all along. -/
structure Merges (c : Corpus) (m : Merge) (cards : List Card) (paths : List Path)
    (t t' : FileTree) : Prop where
  returned : paths = cards.map (fun card => c.cardPath card.key) ++ [c.cardtreePath]
  rows : ∃ rows, c.RowsAt t rows ∧
    (c.project.Settled t → readRows t c.cardtreePath = .ok rows) ∧
    readRows t' c.cardtreePath = .ok (rows ++ (rowsOf cards).filter fun row => row ∉ rows)
  rowsOnce : (rowsOf cards).Nodup
  files : ∀ card ∈ cards, card.StandsIn (t'.shapeAt (cardSlot c.home card.key).target)
  temporary : ∀ s ∈ c.mergeSlots cards, t'.shapeAt (s.temporary c.tag) = none
  elsewhere : ∀ loc, (∀ s ∈ c.mergeSlots cards, loc ≠ s.target ∧ loc ≠ s.temporary c.tag) →
    t'.shapeAt loc ≠ t.shapeAt loc → t.shapeAt loc = none ∧ t'.shapeAt loc = some .folder ∧
      ∃ pre, pre <+: c.cardsFolder.segments ∧ loc = landing [] pre
  again : ∀ w, w.tree = t' → m.scope c t' = .ok cards →
    ∃ w', m.action c w = .ok paths w' ∧ w'.tree = t'
  scope : c.project.Settled t → m.scope c t' = m.scope c t

/-- The steps of a merge that came to its end: folders are made, rows read, and all is written. -/
structure Merged (c : Corpus) (cards : List Card) (rows : List String) (t t₁ t' : FileTree) :
    Prop where
  made : MadeAlong c.cardsFolder.segments t t₁
  still : cards = [] → t₁ = t
  program : FolderAt t₁ c.folder (programAt c.home)
  cardsFolder : cards ≠ [] → FolderAt t₁ c.cardsFolder (cardsAt c.home)
  writable : ∀ card ∈ cards, card.isWritable = true
  read : readRows t₁ c.cardtreePath = .ok rows
  written : writeEach c.tag (cards.map c.cardFile ++
    [ProgramFile.cardtree c.folder (mergeRows rows (cards.map Card.key))]) t₁ = ([], t')

/-- The keys of the cards are single segments of a path, stay in one line and are all different. -/
structure MergeKeys (cards : List Card) : Prop where
  noSlash : ∀ card ∈ cards, '/' ∉ card.key.toList
  oneLine : ∀ card ∈ cards, OneLineKey card.key
  nodup : (cards.map Card.key).Nodup

variable {c : Corpus} {cards : List Card} {rows : List String} {tree : CardTree}
  {trees : List CardTree} {t t₁ t' : FileTree} {w w' : Workspace} {paths : List Path} {m : Merge}

/-! ## Rows -/

/-- Of keys that are all different, those without a row get one behind the rows there are. -/
theorem mergeRows_eq_filter {keys : List String} (hkeys : keys.Nodup) (rows : List String) :
    mergeRows rows keys = rows ++ (keys.map cardRow).filter fun row => row ∉ rows := by
  induction keys generalizing rows with
  | nil => exact (List.append_nil rows).symm
  | cons k ks ih =>
    obtain ⟨hk, hks⟩ := List.nodup_cons.mp hkeys
    rw [mergeRows, List.map_cons]
    by_cases hrow : cardRow k ∈ rows
    · rw [if_pos hrow, ih hks, List.filter_cons_of_neg (by simpa using hrow)]
    · have hrest : (ks.map cardRow).filter (fun row => row ∉ rows ++ [cardRow k]) =
          (ks.map cardRow).filter fun row => row ∉ rows := by
        refine List.filter_congr fun row hmem => decide_eq_decide.mpr ?_
        obtain ⟨k', hk', rfl⟩ := List.mem_map.mp hmem
        have hne : cardRow k' ≠ cardRow k := fun heq => hk (cardRow_inj heq ▸ hk')
        rw [List.mem_append, List.mem_singleton, or_iff_left hne]
      rw [if_neg hrow, ih hks, hrest, List.filter_cons_of_pos (by simpa using hrow),
        List.append_assoc, List.singleton_append]

theorem mergeRows_mergeRows (rows keys : List String) :
    mergeRows (mergeRows rows keys) keys = mergeRows rows keys :=
  mergeRows_eq_self fun k hk => mem_mergeRows.mpr (Or.inr ⟨k, hk, rfl⟩)

theorem nodup_rowsOf (h : (cards.map Card.key).Nodup) : (rowsOf cards).Nodup := by
  have hrows : rowsOf cards = (cards.map Card.key).map cardRow := by
    rw [List.map_map]
    rfl
  rw [hrows]
  exact h.map fun _ _ => cardRow_inj

/-- Where the path of the project leads is known, and there the rows are read. -/
theorem RowsAt.readRows (h : c.RowsAt t rows) (hsettled : c.project.Settled t)
    (hbase : FolderAt t₁ c.project.base c.home)
    (hresolve : t₁.resolve c.cardtreePath = .ok (sharedSlot c.home cardtreeName).target) :
    readRows t c.cardtreePath = .ok rows := by
  have hnames : ∀ n ∈ [Project.programFolderName, cardtreeName], LegalName n := by
    intro n hn
    rcases List.mem_pair.mp hn with rfl | rfl <;> constructor <;> decide
  have hpath : c.cardtreePath = c.project.base.below [Project.programFolderName, cardtreeName] := by
    rw [Path.below_cons, Path.below_singleton]
    rfl
  have hshort := (resolve_eq_ok.mp hresolve).1.short
  have hentry := hsettled.entry?_below hbase hnames
  rw [← hpath, if_neg (by omega)] at hentry
  have hslot : c.home ++ [Project.programFolderName, cardtreeName] =
      (sharedSlot c.home cardtreeName).target := by simp [sharedSlot, programAt, Slot.target]
  have hisFile : t.isFile c.cardtreePath =
      .ok ((t.find (sharedSlot c.home cardtreeName).target).any Node.isFile) := by
    unfold isFile
    rw [hentry, ← hslot]
    rfl
  cases h with
  | lines file text =>
    rw [shapeAt_eq_file.mp file] at hisFile
    obtain ⟨loc, content, hr, -⟩ := isFile_eq_true.mp hisFile
    cases (location_of_resolve hr).symm.trans (location_cardtreePath c)
    exact readRows_of_linesOf? hr file text
  | missing file =>
    have hno : t.isFile c.cardtreePath = .ok false := by
      cases hb : (t.find (sharedSlot c.home cardtreeName).target).any Node.isFile with
      | false => rw [hisFile, hb]
      | true =>
        rw [hb] at hisFile
        obtain ⟨loc, content, hr, hcontent⟩ := isFile_eq_true.mp hisFile
        cases (location_of_resolve hr).symm.trans (location_cardtreePath c)
        exact absurd hcontent (file content)
    unfold ProgramFile.readRows
    rw [hno]
    rfl

/-! ## The steps -/

theorem Merge.scope_add {found : List (String × CardTree)}
    (h : c.project.findCards (trees.map fun tree => tree.card.key) t = .ok found) :
    (Merge.add trees).scope c t = .ok (takenIn found trees) :=
  congrArg (Except.map fun found => takenIn found trees) h

theorem ok_of_scope_add (h : (Merge.add trees).scope c t = .ok cards) :
    ∃ found, c.project.findCards (trees.map fun tree => tree.card.key) t = .ok found ∧
      cards = takenIn found trees := by
  unfold Merge.scope at h
  dsimp only at h
  cases hfound : c.project.findCards (trees.map fun tree => tree.card.key) t with
  | error e => rw [hfound] at h; exact absurd h (by simp [Except.map])
  | ok found => rw [hfound] at h; exact ⟨found, rfl, (Except.ok.inj h).symm⟩

theorem cards_ne_nil_of_subtree (h : c.subtree tree t = .ok cards) : cards ≠ [] := by
  obtain ⟨found, -, rfl⟩ := subtree_ok h
  cases (found.lookup tree.card.key).getD tree with
  | node card children => simp [CardTree.cards]

/-- The paths of the cards' files and of the file of rows. -/
theorem map_path_merged (c : Corpus) (cards : List Card) (rows : List String) :
    (cards.map c.cardFile ++ [ProgramFile.cardtree c.folder rows]).map ProgramFile.path =
      cards.map (fun card => c.cardPath card.key) ++ [c.cardtreePath] := by
  rw [List.map_append, List.map_map]
  rfl

theorem cardsFolder_of_folderAt {loc : Location} (h : FolderAt t c.cardsFolder loc) :
    FolderAt t c.cardsFolder (cardsAt c.home) := by
  cases h.location_eq.symm.trans (location_cardsFolder c)
  exact h

theorem merged_of_generate (hscope : c.subtree tree w.tree = .ok cards)
    (h : c.generate (some tree) w = .ok paths w') :
    ∃ rows t₁, c.Merged cards rows w.tree t₁ w'.tree ∧
      paths = cards.map (fun card => c.cardPath card.key) ++ [c.cardtreePath] := by
  obtain ⟨cards', others, t₁, ⟨hcards, hmakes, hwritable, hothers, hwrite⟩, hpaths⟩ :=
    steps_of_generate h
  cases hscope.symm.trans hcards
  obtain ⟨hmade, loc, hloc⟩ := Disk.madeAlong_makeFolders hmakes
  have hfolder := cardsFolder_of_folderAt hloc
  obtain ⟨file, hfile, rfl⟩ := otherFiles_some.mp hothers
  obtain ⟨rows, hread, rfl⟩ := extendedCardtree_ok hfile
  exact ⟨rows, t₁, ⟨hmade, fun hnil => absurd hnil (cards_ne_nil_of_subtree hscope),
    folderAt_folder hfolder, fun _ => hfolder, hwritable, hread, hwrite⟩,
    hpaths.trans (map_path_merged c cards _)⟩

/-- The first file of a card makes the folder of all of them, if it is not there. -/
theorem exists_madeAlong_of_writeEach {others : List ProgramFile}
    (hslash : ∀ card ∈ cards, '/' ∉ card.key.toList)
    (h : writeEach c.tag (cards.map c.cardFile ++ others) t = ([], t')) :
    ∃ t₁, MadeAlong c.cardsFolder.segments t t₁ ∧ (cards = [] → t₁ = t) ∧
      (cards ≠ [] → FolderAt t₁ c.cardsFolder (cardsAt c.home)) ∧
      writeEach c.tag (cards.map c.cardFile ++ others) t₁ = ([], t') := by
  cases cards with
  | nil => exact ⟨t, .refl _ _, fun _ => rfl, fun hne => absurd rfl hne, h⟩
  | cons card cards =>
    have hleads : Leads (c.cardFile card) _ := leads_cardFile (hslash card List.mem_cons_self)
    have hparent : (c.cardFile card).path.parent = c.cardsFolder :=
      parent_cardFile (hslash card List.mem_cons_self)
    rw [List.map_cons, List.cons_append] at h ⊢
    obtain ⟨t₂, hwrite, hrest⟩ := ok_of_writeEach_cons h
    rcases write_cases c.tag hleads t with ⟨e, t₁, -, herror⟩ | ⟨t₁, -, hmade, hslot, hsame, -⟩
    · exact absurd (hwrite.symm.trans herror) (by simp)
    · have hfolder := hslot.folder
      rw [hparent] at hmade hfolder
      refine ⟨t₁, hmade, fun hnil => absurd hnil (by simp), fun _ => hfolder, ?_⟩
      rw [writeEach, ← hsame, hwrite]
      exact hrest

theorem merged_of_addCards (hthere : c.isThere w.tree = .ok true)
    (hscope : (Merge.add trees).scope c w.tree = .ok cards)
    (hslash : ∀ card ∈ cards, '/' ∉ card.key.toList) (h : c.addCards trees w = .ok paths w') :
    ∃ rows t₁, c.Merged cards rows w.tree t₁ w'.tree ∧
      paths = cards.map (fun card => c.cardPath card.key) ++ [c.cardtreePath] := by
  obtain ⟨found, rows, ⟨-, hfound, hwritable, hread, hwrite⟩, hpaths⟩ :=
    steps_of_addCards hthere h
  cases hscope.symm.trans (Merge.scope_add hfound)
  obtain ⟨t₁, hmade, hstill, hcardsFolder, hwrite₁⟩ := exists_madeAlong_of_writeEach hslash hwrite
  obtain ⟨hprogram, hr, content, hfile⟩ := cardtree_of_isThere hthere
  have hkept : ∀ loc, w.tree.shapeAt loc = some .folder → t₁.shapeAt loc = some .folder :=
    fun _ => hmade.kept
  refine ⟨rows, t₁, ⟨hmade, hstill, hprogram.of_kept hkept, hcardsFolder, hwritable, ?_, hwrite₁⟩,
    hpaths.trans (map_path_merged c _ _)⟩
  rw [readRows_congr hr (resolve_of_kept hkept hr) hfile (hmade.kept hfile)]
  exact hread

theorem merged_of_action (happlies : m.Applies c w.tree) (hscope : m.scope c w.tree = .ok cards)
    (hslash : ∀ card ∈ cards, '/' ∉ card.key.toList) (h : m.action c w = .ok paths w') :
    ∃ rows t₁, c.Merged cards rows w.tree t₁ w'.tree ∧
      paths = cards.map (fun card => c.cardPath card.key) ++ [c.cardtreePath] := by
  cases m with
  | generate tree => exact merged_of_generate hscope h
  | add trees => exact merged_of_addCards happlies hscope hslash h

/-! ## The files -/

theorem card_mem_mergeBatch {card : Card} (rows : List String) (hcard : card ∈ cards) :
    (c.cardFile card, cardSlot c.home card.key) ∈ c.mergeBatch cards rows :=
  mem_batch.mpr (Or.inl ⟨card, hcard, rfl⟩)

theorem cardtree_mem_mergeBatch (c : Corpus) (cards : List Card) (rows : List String) :
    (ProgramFile.cardtree c.folder (mergeRows rows (cards.map Card.key)),
      sharedSlot c.home cardtreeName) ∈ c.mergeBatch cards rows := by
  have hname : (ProgramFile.cardtree c.folder (mergeRows rows (cards.map Card.key))).path.name =
      cardtreeName := Path.name_child _ _
  exact mem_batch.mpr (Or.inr ⟨_, List.mem_singleton.mpr rfl, by rw [hname]⟩)

theorem map_snd_mergeBatch (c : Corpus) (cards : List Card) (rows : List String) :
    (c.mergeBatch cards rows).map Prod.snd = c.mergeSlots cards := by
  have hname : (ProgramFile.cardtree c.folder (mergeRows rows (cards.map Card.key))).path.name =
      cardtreeName := Path.name_child _ _
  unfold mergeBatch batch mergeSlots
  rw [List.map_append, List.map_map, List.map_singleton, List.map_singleton, hname]
  rfl

theorem apart_mergeBatch (htag : IsTag c.tag) (hkeys : (cards.map Card.key).Nodup)
    (rows : List String) : Apart c.tag (c.mergeBatch cards rows) :=
  apart_batch htag hkeys (isShared_cardtree c _) (List.nodup_singleton _)

namespace Merged

variable (h : c.Merged cards rows t t₁ t') (htag : IsTag c.tag) (hkeys : MergeKeys cards)
include h htag hkeys

/-- When the folders are there, the files of the cards and that of the rows go to their slots. -/
theorem placed : Placed c.tag (c.mergeBatch cards rows) t₁ t' := by
  have hwritten := h.written
  rw [← map_fst_batch c c.home] at hwritten
  refine placed_of_writeEach (fun x hx => ?_) (apart_mergeBatch htag hkeys.nodup rows) hwritten
  rcases mem_batch.mp hx with ⟨card, hcard, rfl⟩ | ⟨f, hf, rfl⟩
  · have hparent : (c.cardFile card).path.parent = c.cardsFolder :=
      parent_cardFile (hkeys.noSlash card hcard)
    have hfolder := h.cardsFolder (List.ne_nil_of_mem hcard)
    exact (leads_cardFile (hkeys.noSlash card hcard)).hasSlot (hparent ▸ hfolder)
  · exact hasSlot_shared h.program (isShared_cardtree c _ f hf)

theorem resolve_after : t'.resolve c.cardtreePath = .ok (sharedSlot c.home cardtreeName).target :=
  (h.placed htag hkeys).resolve_after (cardtree_mem_mergeBatch c cards rows)

/-- What was read is what was there before folders were made. -/
theorem rowsAt : c.RowsAt t rows := by
  have hr : t₁.resolve c.cardtreePath = .ok (sharedSlot c.home cardtreeName).target :=
    (h.placed htag hkeys).resolve (cardtree_mem_mergeBatch c cards rows)
  by_cases hfile : ∃ content,
      t₁.shapeAt (sharedSlot c.home cardtreeName).target = some (.file content)
  · obtain ⟨content, hcontent⟩ := hfile
    have hread := h.read
    rw [readRows_of_file hr hcontent] at hread
    cases hlines : linesOf? content with
    | none => rw [hlines] at hread; exact absurd hread (by simp)
    | some lines =>
      rw [hlines] at hread
      cases hread
      exact .lines (h.made.file hcontent) hlines
  · have hnone : rows = [] := by
      rcases readRows_ok h.read with hnil | ⟨loc, content, lines, hr', hcontent, -⟩
      · exact hnil
      · cases hr.symm.trans hr'
        exact absurd ⟨content, hcontent⟩ hfile
    rw [hnone]
    exact .missing fun content hcontent => hfile ⟨content, h.made.kept hcontent⟩

theorem cardtree_stands : t'.shapeAt (sharedSlot c.home cardtreeName).target =
    some (.file (bytesOf (rowsText (mergeRows rows (cards.map Card.key))))) :=
  ((h.placed htag hkeys).stands (cardtree_mem_mergeBatch c cards rows)).2

theorem readRows_after :
    readRows t' c.cardtreePath = .ok (mergeRows rows (cards.map Card.key)) := by
  refine readRows_of_placed (h.placed htag hkeys) (cardtree_mem_mergeBatch c cards rows) ?_
  intro row hrow
  rcases mem_mergeRows_keys.mp hrow with hold | hnew
  · exact isRow_of_readRows h.read hold
  · exact isRow_rowsOf hkeys.oneLine hnew

theorem temporary_after {s : Slot} (hs : s ∈ c.mergeSlots cards) :
    t'.shapeAt (s.temporary c.tag) = none := by
  rw [← map_snd_mergeBatch c cards rows] at hs
  obtain ⟨x, hx, rfl⟩ := List.mem_map.mp hs
  exact (h.placed htag hkeys).temporary hx

/-- What is in no place of the batch is as it was when the folders were made. -/
theorem shapeAt_of_out {loc : Location}
    (hout : ∀ s ∈ c.mergeSlots cards, loc ≠ s.target ∧ loc ≠ s.temporary c.tag) :
    t'.shapeAt loc = t₁.shapeAt loc := by
  refine (h.placed htag hkeys).elsewhere fun x hx => hout x.2 ?_
  rw [← map_snd_mergeBatch c cards rows]
  exact List.mem_map_of_mem hx

/-- So it is as it was before, or a folder on the way to the cards' files. -/
theorem elsewhere {loc : Location}
    (hout : ∀ s ∈ c.mergeSlots cards, loc ≠ s.target ∧ loc ≠ s.temporary c.tag)
    (hloc : t'.shapeAt loc ≠ t.shapeAt loc) : t.shapeAt loc = none ∧
      t'.shapeAt loc = some .folder ∧
        ∃ pre, pre <+: c.cardsFolder.segments ∧ loc = landing [] pre := by
  rw [h.shapeAt_of_out htag hkeys hout] at hloc ⊢
  exact h.made.exists_prefix hloc

/-! ## Once more -/

theorem written_again : writeEach c.tag (cards.map c.cardFile ++
    [ProgramFile.cardtree c.folder (mergeRows rows (cards.map Card.key))]) t' = ([], t') := by
  have hagain := (h.placed htag hkeys).again
  rw [mergeBatch, map_fst_batch] at hagain
  exact hagain

theorem generate_again (hscope : c.subtree tree t' = .ok cards) (hw : w.tree = t') :
    ∃ w', c.generate (some tree) w =
        .ok (cards.map (fun card => c.cardPath card.key) ++ [c.cardtreePath]) w' ∧
      w'.tree = t' := by
  subst hw
  have hcardsFolder : FolderAt w.tree c.cardsFolder (cardsAt c.home) :=
    (h.cardsFolder (cards_ne_nil_of_subtree hscope)).of_kept (h.placed htag hkeys).kept
  have hrows := mergeRows_mergeRows rows (cards.map Card.key)
  have hsteps : c.Steps (some tree) cards _ w.tree w.tree w.tree :=
    ⟨hscope, Disk.makeFolders_of_folder hcardsFolder, h.writable,
      otherFiles_some.mpr ⟨_, extendedCardtree_of_readRows (h.readRows_after htag hkeys), rfl⟩,
      hrows.symm ▸ h.written_again htag hkeys⟩
  obtain ⟨w', hgenerate, htree⟩ := generate_of_steps hsteps
  rw [map_path_merged] at hgenerate
  exact ⟨w', hgenerate, htree⟩

theorem addCards_again (hscope : (Merge.add trees).scope c t' = .ok cards) (hw : w.tree = t') :
    ∃ w', c.addCards trees w =
        .ok (cards.map (fun card => c.cardPath card.key) ++ [c.cardtreePath]) w' ∧
      w'.tree = t' := by
  subst hw
  obtain ⟨found, hfound, rfl⟩ := ok_of_scope_add hscope
  have hrows := mergeRows_mergeRows rows ((takenIn found trees).map Card.key)
  have hthere := isThere_of_placed (h.placed htag hkeys) (cardtree_mem_mergeBatch c _ rows)
  have hsteps : c.AddSteps trees found _ w.tree w.tree :=
    ⟨hthere, hfound, h.writable, h.readRows_after htag hkeys,
      hrows.symm ▸ h.written_again htag hkeys⟩
  obtain ⟨w', hadd, htree⟩ := addCards_of_steps hsteps
  rw [map_path_merged] at hadd
  exact ⟨w', hadd, htree⟩

/-- With the same cards another call changes nothing. -/
theorem action_again (hscope : m.scope c t' = .ok cards) (hw : w.tree = t') :
    ∃ w', m.action c w =
        .ok (cards.map (fun card => c.cardPath card.key) ++ [c.cardtreePath]) w' ∧
      w'.tree = t' := by
  cases m with
  | generate tree => exact h.generate_again htag hkeys hscope hw
  | add trees => exact h.addCards_again htag hkeys hscope hw

/-! ## The store -/

theorem base : FolderAt t' c.project.base c.home :=
  base_of_folder (folder_of_placed (h.placed htag hkeys) (cardtree_mem_mergeBatch c cards rows))

theorem readRows_before (hsettled : c.project.Settled t) : readRows t c.cardtreePath = .ok rows :=
  (h.rowsAt htag hkeys).readRows hsettled (h.base htag hkeys) (h.resolve_after htag hkeys)

theorem cardShapes_eq (hsettled : c.project.Settled t) (loc : Location) :
    Project.cardShapes t' c.home loc = Project.cardShapes t c.home loc := by
  have hnot : ¬ programAt c.home <+: c.home ++ Card.rootFolder :: loc :=
    not_below_programAt (by decide) loc
  have hsegments : c.cardsFolder.segments = (c.project.base.below
      [Project.programFolderName, ProgramFile.cardsFolder]).segments :=
    List.append_assoc c.project.base.segments [_] [_]
  unfold Project.cardShapes
  rw [(h.placed htag hkeys).shapes, mergeBatch,
    putAll_batch_of_not_below (isShared_cardtree c _) hnot]
  by_contra hne
  have hprefix := hsettled.isPrefix_of_madeAlong (by decide) (hsegments ▸ h.made) (by simp) hne
  exact absurd (List.cons_prefix_cons.mp hprefix).1 (by decide)

/-- The store is not touched, so the same cards are found again. -/
theorem findCards_eq (hsettled : c.project.Settled t) (keys : List String) :
    c.project.findCards keys t' = c.project.findCards keys t := by
  unfold Project.findCards
  rw [hsettled.entry?_cardRoot_eq (h.base htag hkeys) (h.cardShapes_eq htag hkeys hsettled)]

theorem scope_eq (hsettled : c.project.Settled t) (m : Merge) : m.scope c t' = m.scope c t := by
  cases m with
  | generate tree =>
    unfold Merge.scope subtree Project.findCard?
    dsimp only
    rw [h.findCards_eq htag hkeys hsettled]
  | add trees =>
    unfold Merge.scope
    dsimp only
    rw [h.findCards_eq htag hkeys hsettled]

end Merged

/-- A merge loses no row and repeats none, writes the files of its cards and nothing else, and done
once more changes nothing. -/
theorem merges_of_action (htag : IsTag c.tag) (happlies : m.Applies c w.tree)
    (hscope : m.scope c w.tree = .ok cards) (hkeys : MergeKeys cards)
    (h : m.action c w = .ok paths w') : c.Merges m cards paths w.tree w'.tree := by
  obtain ⟨rows, t₁, hmerged, rfl⟩ := merged_of_action happlies hscope hkeys.noSlash h
  have hread := hmerged.readRows_after htag hkeys
  rw [mergeRows_eq_filter hkeys.nodup, List.map_map] at hread
  exact {
    returned := rfl
    rows := ⟨rows, hmerged.rowsAt htag hkeys, hmerged.readRows_before htag hkeys, hread⟩
    rowsOnce := nodup_rowsOf hkeys.nodup
    files := fun card hcard => standsIn_text (hmerged.writable card hcard)
      ((hmerged.placed htag hkeys).stands (card_mem_mergeBatch rows hcard))
    temporary := fun _ => hmerged.temporary_after htag hkeys
    elsewhere := fun _ => hmerged.elsewhere htag hkeys
    again := fun _ hw hsame => hmerged.action_again htag hkeys hsame hw
    scope := fun hsettled => hmerged.scope_eq htag hkeys hsettled m }

/-! ## A file of rows that was edited -/

/-- A card with one below it and a card beside them, and a corpus without files of cards.  The file
of rows has a blank line, a line that is no row of a card, the row of the card below twice, and line
ends of two kinds. -/
def handTree : FileTree :=
  ⟨[("p", .folder
      [(".calc", .folder
        [("base.lp", .file (bytesOf "p.")),
          ("cardtree.lp", .file (bytesOf ("\r\n% a\n" ++ cardRow "b" ++ "\r\n" ++ cardRow "b")))]),
        ("cardroot", .folder
          [("a", .folder
            [("c", .folder [("b", .folder [("index.json", .file (bytesOf "{}"))])]),
              ("index.json", .file (bytesOf "{}"))]),
            ("aa", .folder [("index.json", .file (bytesOf "{}"))])])])],
    by simp only [Node.OrderedEntries, Node.Ordered]; decide⟩

/-- The card below comes again, as the card that it lies below has brought it. -/
def handMerge : Merge :=
  .add [.node ⟨"a", Path.ofString "/p/cardroot/a", none⟩ [],
    .node ⟨"b", Path.ofString "/p/cardroot/a/c/b", none⟩ []]

theorem merges_by_hand : ∃ cards paths w',
    handMerge.Applies smallCorpus handTree ∧
      handMerge.scope smallCorpus handTree = .ok cards ∧ cards.map Card.key = ["a", "b"] ∧
      handMerge.action smallCorpus ⟨handTree, [], []⟩ = .ok paths w' ∧
      smallCorpus.Merges handMerge cards paths handTree w'.tree ∧
      readRows w'.tree smallCorpus.cardtreePath =
        .ok ["% a", cardRow "b", cardRow "b", cardRow "a"] := by
  have hthere : smallCorpus.isThere handTree = .ok true := by decide +kernel
  have hwanted : Project.wanted ["a", "b"] = ["a", "b"] :=
    Project.wanted_eq_of_perm (by decide) (by decide)
  have hlook : (handMerge.scope smallCorpus handTree).toOption.map (List.map Card.key) =
      some ["a", "b"] := by
    unfold handMerge Merge.scope Project.findCards
    simp only [List.map_cons, List.map_nil, CardTree.card, hwanted]
    decide +kernel
  have hends : comesToEnd (handMerge.action smallCorpus) handTree = true := by
    unfold handMerge Merge.action addCards Project.findCards
    simp only [List.map_cons, List.map_nil, CardTree.card, hwanted]
    decide +kernel
  have hrows : (readRows (treeAfter (handMerge.action smallCorpus) handTree)
      smallCorpus.cardtreePath).toOption = some ["% a", cardRow "b", cardRow "b", cardRow "a"] := by
    unfold handMerge Merge.action addCards Project.findCards
    simp only [List.map_cons, List.map_nil, CardTree.card, hwanted]
    decide +kernel
  cases hscope : handMerge.scope smallCorpus handTree with
  | error f => rw [hscope] at hlook; exact absurd hlook (by simp [Except.toOption])
  | ok cards =>
    rw [hscope] at hlook
    have hcards : cards.map Card.key = ["a", "b"] := Option.some.inj hlook
    have hall : ∀ key ∈ cards.map Card.key, '/' ∉ key.toList ∧ OneLineKey key := by
      rw [hcards]
      unfold OneLineKey
      decide
    have hkeys : MergeKeys cards :=
      ⟨fun card hcard => (hall _ (List.mem_map_of_mem hcard)).1,
        fun card hcard => (hall _ (List.mem_map_of_mem hcard)).2, by rw [hcards]; decide⟩
    obtain ⟨paths, w', haction, htree⟩ := ok_of_comesToEnd hends
    rw [← htree] at hrows
    cases hread : readRows w'.tree smallCorpus.cardtreePath with
    | error f => rw [hread] at hrows; exact absurd hrows (by simp [Except.toOption])
    | ok rows =>
      rw [hread] at hrows
      cases Option.some.inj hrows
      exact ⟨cards, paths, w', hthere, rfl, hcards, haction,
        merges_of_action (w := ⟨handTree, [], []⟩) (by decide) hthere hscope hkeys haction, hread⟩

end CardLogic.Corpus
