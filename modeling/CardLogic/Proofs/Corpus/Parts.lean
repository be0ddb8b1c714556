import CardLogic.Proofs.Corpus.Calls

/-!
A corpus generated part by part.

Where there is no program folder yet, each generation for a card right in the folder of all
cards finds the rows of the parts before it, and as no key is repeated its own rows come behind
them (`Grown.part`).  So after one generation for each of these cards, in their order, the cards'
files and the rows are those of a whole generation (`generate_parts`); the files that all cards
share are written with the whole corpus alone.
-/

namespace CardLogic.Corpus

open FileTree ProgramFile

/-- Generations for one card after the other that all come to their end, each of some writer. -/
inductive GeneratesEach (c : Corpus) : List CardTree → FileTree → FileTree → Prop
  | nil {t : FileTree} : GeneratesEach c [] t t
  | cons {tree : CardTree} {trees : List CardTree} {tag : String} {t t₁ t' : FileTree}
      (htag : IsTag tag) (first : Does ({ c with tag := tag }.generate (some tree)) t t₁)
      (rest : GeneratesEach c trees t₁ t') : GeneratesEach c (tree :: trees) t t'

/-- The files of some cards and that of their rows. -/
def rowsBatch (c : Corpus) (home : Location) (cards : List Card) : List (ProgramFile × Slot) :=
  c.batch home cards [ProgramFile.cardtree c.folder (rowsOf cards)]

/-- What is there after the generations for parts with these cards: nothing before the first,
and then their files, with their rows, and nothing else. -/
inductive Grown (c : Corpus) (home : Location) : List Card → FileTree → Prop
  | nothing {t : FileTree} (noProgram : t.shapeAt (programAt home) = none) : Grown c home [] t
  | files {cards : List Card} {t : FileTree} (folder : FolderAt t c.cardsFolder (cardsAt home))
      (resolve : t.resolve c.cardtreePath = .ok (sharedSlot home cardtreeName).target)
      (holds : HoldsJust home (c.rowsBatch home cards) t.shapeAt) : Grown c home cards t

variable {c : Corpus} {home : Location} {cards done new : List Card} {rows : List String}
  {tree : CardTree} {before ts scopes : List CardTree} {t t₁ t' u : FileTree}

/-! ## One part -/

theorem rowsOf_append (cards more : List Card) :
    rowsOf (cards ++ more) = rowsOf cards ++ rowsOf more := List.map_append

/-- The rows of cards that are new come behind the others in their order. -/
theorem mergeRows_rowsOf (hkeys : ((done ++ new).map Card.key).Nodup) :
    mergeRows (rowsOf done) (new.map Card.key) = rowsOf (done ++ new) := by
  rw [List.map_append] at hkeys
  obtain ⟨-, hnewKeys, hapart⟩ := List.nodup_append.mp hkeys
  rw [mergeRows_eq_append _ hnewKeys, rowsOf_append, rowsOf_eq new]
  intro key hkey hmem
  exact hapart key (cardRow_mem_rowsOf_iff.mp hmem) key hkey rfl

/-- Another writer finds what is there. -/
theorem grown_tag_iff {tag : String} :
    Grown { c with tag := tag } home done t ↔ Grown c home done t := by
  constructor
  · intro h
    cases h with
    | nothing noProgram => exact .nothing noProgram
    | files folder resolve holds => exact .files folder resolve holds
  · intro h
    cases h with
    | nothing noProgram => exact .nothing noProgram
    | files folder resolve holds => exact .files folder resolve holds

/-- When the folders of a part were made, the rows that are read are those of the parts before. -/
theorem Grown.made (h : Grown c home done t) (hbase : FolderAt t c.project.base home)
    (hmakes : Disk.makeFolders c.cardsFolder t = .ok () t₁)
    (hkeys : ∀ card ∈ done, OneLineKey card.key) (hread : readRows t₁ c.cardtreePath = .ok rows) :
    rows = rowsOf done ∧ ∃ old, HoldsJust home old t₁.shapeAt ∧
      (∀ card ∈ done, (c.cardFile card, cardSlot home card.key) ∈ old) ∧
      ∀ x ∈ old, x ∈ c.rowsBatch home done := by
  cases h with
  | nothing noProgram =>
    have hempty := holdsJust_of_makeFolders hbase hmakes noProgram
    have hnothing : t₁.shapeAt (sharedSlot home cardtreeName).target = none := by
      apply hempty.nothing _ (programAt_isPrefix_sharedSlot cardtreeName)
      · simp [sharedSlot, Slot.target]
      · intro heq
        have hname : [cardtreeName] = [ProgramFile.cardsFolder] := List.append_cancel_left heq
        exact absurd hname (by decide)
      · simp
    cases hbase.location_eq
    have hrows : c.RowsAre (fun _ => False) t₁ :=
      fun _ hfile => absurd (hnothing.symm.trans hfile) (by simp)
    refine ⟨?_, [], hempty, by simp, by simp⟩
    rcases hrows.of_readRows hread with hrows | ⟨_, hno, -⟩
    · exact hrows
    · exact absurd hno id
  | files folder resolve holds =>
    cases (Disk.makeFolders_of_folder folder).symm.trans hmakes
    have hname : (ProgramFile.cardtree c.folder (rowsOf done)).path.name = cardtreeName :=
      Path.name_child _ _
    have hcardtree : (ProgramFile.cardtree c.folder (rowsOf done), sharedSlot home cardtreeName) ∈
        c.rowsBatch home done :=
      mem_batch.mpr (Or.inr ⟨_, List.mem_singleton.mpr rfl, by rw [hname]⟩)
    have hthere := readRows_of_rowsText resolve (holds.stands _ hcardtree).2 fun _ =>
      isRow_rowsOf hkeys
    cases hthere.symm.trans hread
    refine ⟨rfl, _, holds, fun card hcard => ?_, fun _ hx => hx⟩
    exact mem_batch.mpr (Or.inl ⟨card, hcard, rfl⟩)

/-- A generation for a card adds the files of its cards, and their rows behind those there are. -/
theorem Grown.part (h : Grown c home done t) (htag : IsTag c.tag)
    (hbase : FolderAt t c.project.base home) (hsubtree : c.subtree tree t = .ok new)
    (hlegal : ∀ card ∈ new, LegalName card.key) (honeLine : ∀ card ∈ done, OneLineKey card.key)
    (hkeys : ((done ++ new).map Card.key).Nodup)
    (hdoes : Does (c.generate (some tree)) t t') :
    Grown c home (done ++ new) t' ∧ OnlyProgram home t t' := by
  obtain ⟨w, w', paths, rfl, hgenerate, rfl⟩ := hdoes
  obtain ⟨affected, others, t₁, ⟨hcards, hmakes, -, hothers, hwrite⟩, -⟩ :=
    steps_of_generate hgenerate
  cases hsubtree.symm.trans hcards
  obtain ⟨file, hfile, rfl⟩ := otherFiles_some.mp hothers
  obtain ⟨rows, hread, rfl⟩ := extendedCardtree_ok hfile
  obtain ⟨rfl, old, hold, hdone, hslots⟩ := h.made hbase hmakes honeLine hread
  rw [mergeRows_rowsOf hkeys] at hwrite
  rw [List.map_append] at hkeys
  obtain ⟨-, hnewKeys, hapart⟩ := List.nodup_append.mp hkeys
  have hfolder := folderAt_of_makeFolders hbase hmakes
  have hwritten := written_of_writeEach htag hfolder hlegal hnewKeys (isShared_cardtree c _)
    (by simp) hwrite
  have honly := hwritten.onlyProgram
  have hfolder' := hfolder.of_kept honly.kept
  have hcardtree : ∃ x ∈ c.batch home new [ProgramFile.cardtree c.folder (rowsOf (done ++ new))],
      x.1.path = c.cardtreePath :=
    ⟨_, mem_batch.mpr (Or.inr ⟨_, List.mem_singleton.mpr rfl, rfl⟩), rfl⟩
  obtain ⟨x, hx, hpath⟩ := hcardtree
  refine ⟨.files hfolder' ?_ ?_, (onlyProgram_of_makeFolders hbase hmakes).trans honly⟩
  · exact resolve_cardtreePath hfolder' (hpath ▸ hwritten.fitting hx)
  · rw [hwritten.shapes]
    refine hold.putAll htag hwritten.apart hwritten.room
      (fun x hx => (slot_of_mem_batch (isShared_cardtree c _) hx).2) (fun x hx => ?_) fun x hx => ?_
    · refine mem_rowsBatch_or (by simp) (fun card hcard => ?_) (by simp) hx
      rcases List.mem_append.mp hcard with hcard | hcard
      · refine Or.inr ⟨hdone card hcard, fun other hother heq => ?_⟩
        exact hapart _ (List.mem_map_of_mem hcard) _ (List.mem_map_of_mem hother) heq.symm
      · exact Or.inl hcard
    · rcases hx with hx | hx
      · exact exists_slot_of_mem_rowsBatch [] (fun _ => List.mem_append_left new) (hslots x hx)
      · exact exists_slot_of_mem_rowsBatch [] (fun _ => List.mem_append_right done) hx

/-! ## All parts -/

theorem listing_concat (before : List CardTree) (tree : CardTree) :
    CardTree.listing (before ++ [tree]) = CardTree.listing before ++ tree.cards := by
  rw [CardTree.listing_append, CardTree.listing, CardTree.listing, List.append_nil]

/-- The parts of the trees that are left come behind those of the trees before. -/
theorem Grown.parts (hparts : GeneratesEach c scopes t t')
    (h : Grown c home (CardTree.listing before) t) (hreg : c.project.Regular home cards t)
    (htrees : c.project.trees t = .ok (before ++ ts))
    (hscopes : scopes.map (fun scope => scope.card.key) = ts.map fun tree => tree.card.key) :
    Grown c home (CardTree.listing (before ++ ts)) t' := by
  induction hparts generalizing before ts with
  | nil =>
    have hts : ts = [] := List.map_eq_nil_iff.mp hscopes.symm
    rw [hts, List.append_nil]
    exact h
  | @cons scope scopes tag t t₁ t' htag first _ ih =>
    cases ts with
    | nil => exact absurd hscopes (by simp)
    | cons tree ts =>
      have hkey : scope.card.key = tree.card.key := (List.cons_eq_cons.mp hscopes).1
      obtain ⟨all, hall, hlisting⟩ := Project.trees_of_cards hreg.readCards
      cases htrees.symm.trans hall
      have hcards : cards =
          CardTree.listing before ++ tree.cards ++ CardTree.listing ts := by
        rw [hlisting, CardTree.listing_append, CardTree.listing, List.append_assoc]
      have hmem : ∀ card, card ∈ CardTree.listing before ++ tree.cards → card ∈ cards := by
        intro card hcard
        rw [hcards]
        exact List.mem_append_left _ hcard
      have hroot : tree.card ∈ tree.cards := by
        cases tree
        exact List.mem_cons_self
      have hne := (hreg.legalName (hmem _ (List.mem_append_right _ hroot))).ne_empty
      have hfound := Project.findCard?_of_mem_trees hreg.foundOnce hreg.base htrees
        (List.mem_append_right before List.mem_cons_self) hne
      rw [← hkey] at hfound
      have hkeys : ((CardTree.listing before ++ tree.cards).map Card.key).Nodup := by
        refine hreg.keys.sublist (List.Sublist.map _ ?_)
        rw [hcards]
        exact List.sublist_append_left _ _
      obtain ⟨hgrown, honly⟩ :=
        (grown_tag_iff.mpr h).part htag hreg.base (subtree_of_findCard? hfound)
        (fun card hcard => hreg.legalName (hmem card (List.mem_append_right _ hcard)))
        (fun card hcard => hreg.oneLine card (hmem card (List.mem_append_left _ hcard))) hkeys first
      have hreg₁ := honly.regular hreg
      have hassoc : before ++ tree :: ts = before ++ [tree] ++ ts := by simp
      rw [hassoc] at htrees ⊢
      apply ih
      · rw [listing_concat]
        exact grown_tag_iff.mp hgrown
      · exact hreg₁
      · rw [Project.trees_congr hreg.base hreg₁.base honly.cardShapes_eq]
        exact htrees
      · exact (List.cons_eq_cons.mp hscopes).2

/-! ## The whole -/

/-- A corpus has the files of its cards, that of their rows, and those that do not depend on the
cards. -/
theorem mem_filesOf_iff {rules : List RuleFile} {x : ProgramFile × Slot} :
    x ∈ c.filesOf home cards (rowsOf cards) rules ↔ x ∈ c.rowsBatch home cards ∨
      ∃ f ∈ c.steadyFiles rules, x = (f, sharedSlot home f.path.name) := by
  constructor
  · intro hx
    rcases mem_batch.mp hx with hcard | ⟨f, hf, rfl⟩
    · exact Or.inl (mem_batch.mpr (Or.inl hcard))
    · rcases mem_sharedFiles.mp hf with rfl | hf
      · exact Or.inl (mem_batch.mpr (Or.inr ⟨_, List.mem_singleton.mpr rfl, rfl⟩))
      · exact Or.inr ⟨f, hf, rfl⟩
  · intro hx
    rcases hx with hx | ⟨f, hf, rfl⟩
    · rcases mem_batch.mp hx with hcard | ⟨f, hf, rfl⟩
      · exact mem_batch.mpr (Or.inl hcard)
      · rw [List.mem_singleton.mp hf]
        exact mem_batch.mpr (Or.inr ⟨_, mem_sharedFiles.mpr (Or.inl rfl), rfl⟩)
    · exact steady_mem_filesOf hf

section Whole

variable {rules : List RuleFile} {shapes shapes' : Location → Option Shape}

/-- The parts and the whole are the same but for the files that do not depend on the cards. -/
theorem eq_of_rowsBatch (h : HoldsJust home (c.rowsBatch home cards) shapes)
    (h' : HoldsJust home (c.filesOf home cards (rowsOf cards) rules) shapes') {loc : Location}
    (hloc : programAt home <+: loc)
    (hne : ∀ n ∈ [baseName, modulesName, mainName], loc ≠ programAt home ++ [n]) :
    shapes loc = shapes' loc := by
  refine h.eq_at h' hloc fun x hx => ?_
  rw [mem_filesOf_iff]
  constructor
  · exact Or.inl
  · intro hmem
    rcases hmem with hmem | ⟨f, hf, rfl⟩
    · exact hmem
    · exact absurd hx (hne _ (name_of_mem_steadyFiles hf))

theorem eq_none_of_rowsBatch (h : HoldsJust home (c.rowsBatch home cards) shapes) {n : String}
    (hn : n ∈ [baseName, modulesName, mainName]) : shapes (programAt home ++ [n]) = none := by
  obtain ⟨hfolder, hcardtree⟩ := ne_of_mem_steadyNames hn
  apply h.nothing _ (List.prefix_append _ _)
  · simp
  · intro heq
    have hname : [n] = [ProgramFile.cardsFolder] := List.append_cancel_left heq
    exact hfolder (List.singleton_inj.mp hname)
  · intro x hx heq
    have hslot : sharedSlot home n = x.2 := Slot.target_inj heq
    rcases mem_batch.mp hx with ⟨card, -, rfl⟩ | ⟨f, hf, rfl⟩
    · exact cardSlot_ne_sharedSlot _ _ hslot.symm
    · rw [List.mem_singleton.mp hf] at hslot
      exact hcardtree ((congrArg Slot.name hslot).trans (Path.name_child _ _))

end Whole

/-- Where a project has no program folder and a regular store with a card, generations for all
cards right in the folder of all cards, in their order, leave the cards' files and the rows of a
whole generation, and none of the other files. -/
theorem generate_parts (htag : IsTag c.tag) (hreg : c.project.Regular home cards t)
    (hprogram : t.shapeAt (programAt home) ≠ some .folder) (hcards : cards ≠ [])
    (htrees : c.project.trees t = .ok ts)
    (hscopes : scopes.map (fun scope => scope.card.key) = ts.map fun tree => tree.card.key)
    (hparts : GeneratesEach c scopes t t') (hwhole : Does (c.generate none) t u) :
    t'.shapeAt (programAt home ++ [cardtreeName]) = u.shapeAt (programAt home ++ [cardtreeName]) ∧
      (∀ loc, cardsAt home <+: loc → t'.shapeAt loc = u.shapeAt loc) ∧
      ∀ n ∈ [baseName, modulesName, mainName], t'.shapeAt (programAt home ++ [n]) = none := by
  obtain ⟨w, w', paths, rfl, hgenerate, rfl⟩ := hwhole
  obtain ⟨rules, t₁, hwhole⟩ := whole_of_regular hreg hgenerate
  have hnone := noProgram_of_makeFolders hreg.base hwhole.makes hprogram
  have hreg₁ := (onlyProgram_of_makeFolders hreg.base hwhole.makes).regular hreg
  have hempty := holdsJust_of_makeFolders hreg.base hwhole.makes hnone
  have hall := hwhole.holdsJust htag hreg₁ hempty (by simp)
  have hgrown : Grown c home (CardTree.listing ([] ++ ts)) t' :=
    Grown.parts hparts (.nothing hnone) hreg htrees hscopes
  obtain ⟨_, hts, hlisting⟩ := Project.trees_of_cards hreg.readCards
  cases htrees.symm.trans hts
  rw [List.nil_append, ← hlisting] at hgrown
  cases hgrown with
  | nothing => exact absurd rfl hcards
  | files folder resolve holds =>
    refine ⟨?_, fun loc hloc => ?_, fun n hn => eq_none_of_rowsBatch holds hn⟩
    · apply eq_of_rowsBatch holds hall (List.prefix_append _ _)
      intro n hn heq
      have hname : [cardtreeName] = [n] := List.append_cancel_left heq
      exact (ne_of_mem_steadyNames hn).2 (List.singleton_inj.mp hname).symm
    · apply eq_of_rowsBatch holds hall ((List.prefix_append _ _).trans hloc)
      rintro n hn rfl
      have hname : [ProgramFile.cardsFolder] <+: [n] := (List.prefix_append_right_inj _).mp hloc
      exact (ne_of_mem_steadyNames hn).1 (List.cons_prefix_cons.mp hname).1.symm

/-- Scopes for the two cards right in the folder of all cards of the small store, as a caller
gives them that does not know what is below. -/
def smallScopes : List CardTree :=
  [.node ⟨"a", Path.ofString "/p/cardroot/a", none⟩ [],
    .node ⟨"b", Path.ofString "/p/cardroot/b", none⟩ []]

theorem generate_parts_small : ∃ t',
    smallCorpus.GeneratesEach smallScopes smallStore t' ∧
      t'.shapeAt (programAt ["p"] ++ [cardtreeName]) =
        some (.file (bytesOf (rowsText (["a", "b", "d"].map cardRow)))) ∧
      (∀ loc, cardsAt ["p"] <+: loc → t'.shapeAt loc = smallGenerated.shapeAt loc) ∧
      ∀ n ∈ [baseName, modulesName, mainName], t'.shapeAt (programAt ["p"] ++ [n]) = none := by
  obtain ⟨cards, hreg, -, hcardKeys⟩ := exists_smallCards
  have hne : cards ≠ [] := by
    rintro rfl
    exact absurd hcardKeys (by simp)
  obtain ⟨ts, htrees, -⟩ := Project.trees_of_cards hreg.readCards
  have hkeys : (smallCorpus.project.trees smallStore).toOption.map
      (List.map fun tree => tree.card.key) = some ["a", "b"] := by decide +kernel
  rw [htrees] at hkeys
  have hscopes : smallScopes.map (fun scope => scope.card.key) = ts.map fun tree => tree.card.key :=
    (Option.some.inj hkeys).symm
  have htag : IsTag smallCorpus.tag := by decide
  have hparts : smallCorpus.GeneratesEach smallScopes smallStore _ :=
    .cons (show IsTag "12-35" by decide) (does_treeAfter (by decide +kernel))
      (.cons (show IsTag "12-36" by decide) (does_treeAfter (by decide +kernel)) .nil)
  obtain ⟨hrows, hfiles, hno⟩ := generate_parts htag hreg (by decide +kernel) hne htrees hscopes
    hparts does_smallGenerated
  refine ⟨_, hparts, hrows.trans ?_, hfiles, hno⟩
  decide +kernel

end CardLogic.Corpus
