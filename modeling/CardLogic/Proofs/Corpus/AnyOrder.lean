import CardLogic.Proofs.Corpus.BrokenOff
import CardLogic.Proofs.Corpus.Fresh
import CardLogic.Proofs.Corpus.ReadsFirst
import CardLogic.Proofs.Program.AnyOrder

/-!
The batches of a corpus, in any order.

A generation and the taking in of cards read first, and then they write one batch (`Builds`).  If
the keys of its cards are single segments of a path and all different, then no path of the batch
goes on from another one or from a temporary place, and the paths go up only where the path of the
project does (`orderFree_of_builds`).  So it is left open in which order the files are written, and
what comes of it is the same (`any_order`): this is so for every batch of files whose paths do not
go up, and for a corpus also where they do.
-/

namespace CardLogic.Corpus

open FileTree ProgramFile

/-- The calls that write a batch: a generation, or new cards. -/
inductive BatchCall where
  | generate (scope : Option CardTree)
  | add (trees : List CardTree)

def BatchCall.action (c : Corpus) : BatchCall → Action (List Path)
  | generate scope => c.generate scope
  | add trees => c.addCards trees

/-- A call comes to its batch: the cards and the files of the batch, and the tree it is written
in. -/
inductive Builds (c : Corpus) (w : Workspace) :
    BatchCall → List Card → List ProgramFile → FileTree → Prop
  | generate {scope : Option CardTree} {cards : List Card} {others : List ProgramFile}
      {t : FileTree} (readCards : c.cardsInScope scope w.tree = .ok cards)
      (makes : Disk.makeFolders c.cardsFolder w.tree = .ok () t)
      (writable : ∀ card ∈ cards, card.isWritable = true)
      (readOthers : c.otherFiles scope cards t = .ok others) :
      Builds c w (.generate scope) cards (cards.map c.cardFile ++ others) t
  | add {trees : List CardTree} {found : List (String × CardTree)} {rows : List String}
      (there : c.isThere w.tree = .ok true)
      (finds : c.project.findCards (trees.map fun tree => tree.card.key) w.tree = .ok found)
      (writable : ∀ card ∈ takenIn found trees, card.isWritable = true)
      (reads : readRows w.tree c.cardtreePath = .ok rows) :
      Builds c w (.add trees) (takenIn found trees)
        ((takenIn found trees).map c.cardFile ++
          [ProgramFile.cardtree c.folder (mergeRows rows ((takenIn found trees).map Card.key))])
        w.tree

/-- What a call comes to is what becomes of its batch, and this does not depend on the order. -/
structure OrderFree (c : Corpus) (w : Workspace) (call : BatchCall) (files : List ProgramFile)
    (t : FileTree) : Prop where
  untangled : Untangled c.tag files
  up : ∀ f ∈ files, (Path.up ∈ f.path.segments ↔ Path.up ∈ c.project.base.segments)
  tree : (after (call.action c) w).tree = (writeEach c.tag files t).2
  told : Told files (writeEach c.tag files t).1 (call.action c w)
  same : NoTemporary c.tag w.tree → ∀ order, order.Perm files → SameOutcome c.tag files order t

variable {c : Corpus} {w : Workspace} {call : BatchCall} {cards : List Card}
  {files others : List ProgramFile} {t : FileTree} {f : ProgramFile} {key : String}

/-! ## The writing -/

/-- All that a call does after it came to its batch is to write it. -/
theorem Builds.writes (h : c.Builds w call cards files t) :
    ∃ w₁, w₁.tree = t ∧ call.action c w = writeAll c.tag files w₁ := by
  cases h with
  | generate readCards makes writable readOthers =>
    exact generate_eq_writeAll readCards makes writable readOthers
  | add there finds writable reads =>
    exact ⟨w, rfl, addCards_eq_writeAll there finds writable reads⟩

theorem Builds.tree_eq (h : c.Builds w call cards files t) :
    (after (call.action c) w).tree = (writeEach c.tag files t).2 := by
  obtain ⟨w₁, rfl, hwrites⟩ := h.writes
  rw [← tree_after_writeAll]
  unfold after
  rw [hwrites]

theorem Builds.told (h : c.Builds w call cards files t) :
    Told files (writeEach c.tag files t).1 (call.action c w) := by
  obtain ⟨w₁, rfl, hwrites⟩ := h.writes
  rw [hwrites]
  exact (told_writeAll c.tag files w₁).1

/-- The files of a batch, and where it is written. -/
theorem Builds.parts (h : c.Builds w call cards files t) :
    ∃ others, files = cards.map c.cardFile ++ others ∧ (∀ f ∈ others, c.IsShared f) ∧
      (others.map fun f => f.path.name).Nodup ∧ FolderAt t c.folder (programAt c.home) ∧
      MadeAlong c.cardsFolder.segments w.tree t := by
  cases h with
  | @generate scope _ others _ readCards makes _ readOthers =>
    obtain ⟨hmade, loc, hloc⟩ := Disk.madeAlong_makeFolders makes
    cases hloc.location_eq.symm.trans (location_cardsFolder c)
    refine ⟨others, rfl, isShared_otherFiles readOthers, ?_, folderAt_folder hloc, hmade⟩
    cases scope with
    | none =>
      obtain ⟨rules, -, rfl⟩ := otherFiles_none.mp readOthers
      rw [map_name_sharedFiles]
      decide
    | some tree =>
      obtain ⟨file, -, rfl⟩ := otherFiles_some.mp readOthers
      exact List.nodup_singleton _
  | add there =>
    exact ⟨_, rfl, isShared_cardtree c _, List.nodup_singleton _, (cardtree_of_isThere there).1,
      MadeAlong.refl _ _⟩

/-! ## The paths -/

/-- The way from the program folder to a file of a corpus. -/
structure ProgramPath (c : Corpus) (f : ProgramFile) (way : List String) (name : String) :
    Prop where
  path : f.path = (c.folder.below way).child name
  way : way = [] ∨ way = [ProgramFile.cardsFolder]
  name : ∃ k, name = cardName k

theorem programPath_cardFile {card : Card} (hkey : '/' ∉ card.key.toList) :
    c.ProgramPath (c.cardFile card) [ProgramFile.cardsFolder] (cardName card.key) :=
  ⟨cardPath_eq c hkey, Or.inr rfl, _, rfl⟩

theorem programPath_shared (hf : c.IsShared f) : c.ProgramPath f [] f.path.name := by
  obtain ⟨hn, hpath⟩ := path_sharedSlot hf
  refine ⟨?_, Or.inl rfl, exists_cardName_of_mem_sharedNames hn⟩
  rw [Path.below_nil]
  exact hpath

namespace ProgramPath

variable {way way' : List String} {name name' : String} {g : ProgramFile}

theorem ne_up (h : c.ProgramPath f way name) : name ≠ Path.up := by
  obtain ⟨k, rfl⟩ := h.name
  exact cardName_ne_of_short (by decide) k

theorem straight (h : c.ProgramPath f way name) : Path.up ∉ way := by
  rcases h.way with rfl | rfl
  · exact List.not_mem_nil
  · decide

theorem hasSpot (h : c.ProgramPath f way name) (hfolder : FolderAt t c.folder (programAt c.home)) :
    HasSpot t f (spotBelow c.folder (programAt c.home) f) :=
  hasSpot_below hfolder h.path h.straight h.ne_up

theorem up_mem_iff (h : c.ProgramPath f way name) :
    Path.up ∈ f.path.segments ↔ Path.up ∈ c.project.base.segments := by
  have hfolder : c.folder.segments = c.project.base.segments ++ [Project.programFolderName] := rfl
  have hname : Path.up ≠ Project.programFolderName := by decide
  rw [segments_below h.path, hfolder]
  simp [h.straight, h.ne_up.symm, hname]

/-- A path goes on from another one only if it is the same. -/
theorem eq_of_prefix (h : c.ProgramPath f way name) (h' : c.ProgramPath g way' name')
    (hpre : f.path.segments <+: g.path.segments) : way = way' ∧ name = name' := by
  rw [segments_below h.path, segments_below h'.path, List.prefix_append_right_inj] at hpre
  rcases h.way with rfl | rfl
  · rcases h'.way with rfl | rfl
    · exact ⟨rfl, List.singleton_inj.mp (hpre.eq_of_length rfl)⟩
    · -- A name of a file is not that of the folder beside it.
      obtain ⟨k, rfl⟩ := h.name
      exact absurd (List.cons_prefix_cons.mp hpre).1 (cardName_ne_cardsFolder k)
  · rcases h'.way with rfl | rfl
    · exact absurd hpre.length_le (by simp)
    · exact ⟨rfl, (List.cons.inj (List.cons.inj (hpre.eq_of_length rfl)).2).1⟩

theorem not_prefix_temporary (h : c.ProgramPath f way name) (h' : c.ProgramPath g way' name')
    (htag : IsTag c.tag) : ¬ (f.temporaryPath c.tag).segments <+: g.path.segments := by
  intro hpre
  obtain ⟨k, rfl⟩ := h'.name
  rw [temporary_segments_below h.path, segments_below h'.path, List.prefix_append_right_inj] at hpre
  rcases h.way with rfl | rfl
  · rcases h'.way with rfl | rfl
    · exact temporaryName_ne_cardName htag _ k (List.cons_prefix_cons.mp hpre).1
    · exact temporaryName_ne_cardsFolder _ _ (List.cons_prefix_cons.mp hpre).1
  · rcases h'.way with rfl | rfl
    · exact absurd hpre.length_le (by simp)
    · have hlast := (List.cons_prefix_cons.mp hpre).2
      exact temporaryName_ne_cardName htag _ k (List.cons_prefix_cons.mp hlast).1

theorem beside (h : c.ProgramPath f way name) (h' : c.ProgramPath g way' name')
    (hne : ¬ (way = way' ∧ name = name')) : Beside f g :=
  ⟨fun hpre => hne (h.eq_of_prefix h' hpre),
    fun hpre => hne ((h'.eq_of_prefix h hpre).imp Eq.symm Eq.symm)⟩

end ProgramPath

section Batch

variable (hslash : ∀ card ∈ cards, '/' ∉ card.key.toList) (hothers : ∀ f ∈ others, c.IsShared f)
include hslash hothers

theorem exists_programPath :
    ∀ f ∈ cards.map c.cardFile ++ others, ∃ way name, c.ProgramPath f way name := by
  intro f hf
  rcases List.mem_append.mp hf with hf | hf
  · obtain ⟨card, hcard, rfl⟩ := List.mem_map.mp hf
    exact ⟨_, _, programPath_cardFile (hslash card hcard)⟩
  · exact ⟨_, _, programPath_shared (hothers f hf)⟩

/-- No path of a batch goes on from another one or from a temporary place. -/
theorem untangled_batch (htag : IsTag c.tag) (hkeys : (cards.map Card.key).Nodup)
    (hnames : (others.map fun f => f.path.name).Nodup) :
    Untangled c.tag (cards.map c.cardFile ++ others) := by
  refine ⟨List.pairwise_append.mpr ⟨?_, ?_, ?_⟩, fun f hf g hg => ?_⟩
  · rw [List.pairwise_map]
    refine (List.pairwise_map.mp hkeys).imp_of_mem fun {a b} ha hb hne => ?_
    refine (programPath_cardFile (hslash a ha)).beside (programPath_cardFile (hslash b hb)) ?_
    exact fun heq => hne (cardName_inj heq.2)
  · refine (List.pairwise_map.mp hnames).imp_of_mem fun {f g} hf hg hne => ?_
    refine (programPath_shared (hothers f hf)).beside (programPath_shared (hothers g hg)) ?_
    exact fun heq => hne heq.2
  · intro f hf g hg
    obtain ⟨card, hcard, rfl⟩ := List.mem_map.mp hf
    refine (programPath_cardFile (hslash card hcard)).beside (programPath_shared (hothers g hg)) ?_
    exact fun heq => absurd heq.1 (by simp)
  · obtain ⟨way, name, hplace⟩ := exists_programPath hslash hothers f hf
    obtain ⟨way', name', hplace'⟩ := exists_programPath hslash hothers g hg
    exact hplace.not_prefix_temporary hplace' htag

end Batch

/-! ## The batches -/

/-- What comes of a batch of a corpus does not depend on its order. -/
theorem orderFree_of_builds (htag : IsTag c.tag) (h : c.Builds w call cards files t)
    (hkeys : (cards.map Card.key).Nodup) (hslash : ∀ card ∈ cards, '/' ∉ card.key.toList) :
    c.OrderFree w call files t := by
  have htree := h.tree_eq
  have htold := h.told
  obtain ⟨others, rfl, hothers, hnames, hfolder, hmade⟩ := h.parts
  have hplaces := exists_programPath hslash hothers
  have hpaths := untangled_batch hslash hothers htag hkeys hnames
  refine ⟨hpaths, fun f hf => ?_, htree, htold, fun hfree order hperm => ?_⟩
  · obtain ⟨way, name, hplace⟩ := hplaces f hf
    exact hplace.up_mem_iff
  · have hfree₁ : NoTemporary c.tag t :=
      fun loc n content hfile => hfree loc n content
        (shapeAt_eq_file.mp (hmade.file (shapeAt_eq_file.mpr hfile)))
    have hspots : ∀ f ∈ cards.map c.cardFile ++ others,
        HasSpot t f (spotBelow c.folder (programAt c.home) f) := by
      intro f hf
      obtain ⟨way, name, hplace⟩ := hplaces f hf
      exact hplace.hasSpot hfolder
    exact any_order_of_spread
      (spread_of_untangled (fun f hf => ⟨hspots f hf, rfl, rfl⟩) hpaths hfree₁) hperm

/-- A call that does not come to its batch makes folders at most. -/
theorem builds_or_made (c : Corpus) (w : Workspace) (call : BatchCall) :
    (∃ cards files t, c.Builds w call cards files t) ∨
      MadeAlong c.cardsFolder.segments w.tree (after (call.action c) w).tree := by
  refine or_iff_not_imp_left.mpr fun hbuilds => ?_
  have hrefl := MadeAlong.refl c.cardsFolder.segments w.tree
  cases call with
  | generate scope =>
    refine kept_generate (MadeAlong _ w.tree) hrefl (Disk.madeAlong_after c.cardsFolder w.tree)
      fun cards others w₁ hcards hmakes hwritable hothers => ?_
    exact absurd ⟨_, _, _, .generate hcards hmakes hwritable hothers⟩ hbuilds
  | add trees =>
    refine kept_addCards (MadeAlong _ w.tree) hrefl
      fun found rows hthere hfound hwritable hread => ?_
    exact absurd ⟨_, _, _, .add hthere hfound hwritable hread⟩ hbuilds

/-- The order in which files are written does not matter: for files of any kind whose paths do not
go up and do not go on from each other, and for the batches of a corpus, which are all that a call
writes. -/
theorem any_order :
    (∀ (tag : String) (files order : List ProgramFile) (t : FileTree),
      (∀ f ∈ files, Path.up ∉ f.path.segments) → Untangled tag files → NoTemporary tag t →
        order.Perm files → SameOutcome tag files order t) ∧
      (∀ (c : Corpus) (w : Workspace) (call : BatchCall) (cards : List Card)
        (files : List ProgramFile) (t : FileTree), IsTag c.tag → c.Builds w call cards files t →
          (cards.map Card.key).Nodup → (∀ card ∈ cards, '/' ∉ card.key.toList) →
            c.OrderFree w call files t) ∧
      ∀ (c : Corpus) (w : Workspace) (call : BatchCall),
        (∃ cards files t, c.Builds w call cards files t) ∨
          MadeAlong c.cardsFolder.segments w.tree (after (call.action c) w).tree :=
  ⟨fun _ _ _ _ hup hpaths hfree hperm => any_order_of_straight hup hpaths hfree hperm,
    fun _ _ _ _ _ _ htag h hkeys hslash => orderFree_of_builds htag h hkeys hslash,
    builds_or_made⟩

/-- A batch of which three files fail, turned round, and the batch of a small store. -/
theorem any_order_barred_small :
    ((∀ f ∈ barredFiles, Path.up ∉ f.path.segments) ∧ Untangled "7-7" barredFiles ∧
      NoTemporary "7-7" barredTree ∧
      SameOutcome "7-7" barredFiles barredFiles.reverse barredTree ∧
      ((writeEach "7-7" barredFiles.reverse barredTree).1.map fun x => (x.1.kind, x.2.fault)) =
        [(.modules, .notEncodable ⟨0, 0, 0⟩), (.main, .alreadyExists), (.card, .isAFolder)]) ∧
      ∃ cards files t, smallCorpus.Builds ⟨smallStore, [], []⟩ (.generate none) cards files t ∧
        cards.map Card.key = ["a", "b", "d"] ∧
        smallCorpus.OrderFree ⟨smallStore, [], []⟩ (.generate none) files t ∧
        SameOutcome smallCorpus.tag files files.reverse t := by
  have hup : ∀ f ∈ barredFiles, Path.up ∉ f.path.segments := by decide +kernel
  have hpaths : Untangled "7-7" barredFiles := ⟨by decide +kernel, by decide +kernel⟩
  have hfree : NoTemporary "7-7" barredTree := noTemporary_of_names (by decide +kernel)
  obtain ⟨hgeneral, hbatches, -⟩ := any_order
  obtain ⟨cards, hreg, -, hkeys⟩ := exists_smallCards
  obtain ⟨w, w', paths, hw, hgenerate, -⟩ := does_smallGenerated
  obtain ⟨read, others, t, ⟨hcards, hmakes, hwritable, hothers, -⟩, -⟩ :=
    steps_of_generate hgenerate
  rw [hw] at hcards hmakes
  cases hreg.readCards.symm.trans hcards
  have hbuilds : smallCorpus.Builds ⟨smallStore, [], []⟩ (.generate none) cards
      (cards.map smallCorpus.cardFile ++ others) t := .generate hcards hmakes hwritable hothers
  have hslash : ∀ card ∈ cards, '/' ∉ card.key.toList := by
    intro card hcard
    have hall : ∀ key ∈ ["a", "b", "d"], '/' ∉ key.toList := by decide
    exact hall card.key (hkeys ▸ List.mem_map_of_mem hcard)
  have horder := hbatches _ _ _ _ _ _ (by decide) hbuilds hreg.keys hslash
  exact ⟨⟨hup, hpaths, hfree, hgeneral _ _ _ _ hup hpaths hfree (List.reverse_perm _),
      by decide +kernel⟩, cards, _, t, hbuilds, hkeys, horder,
    horder.same (noTemporary_of_names (by decide +kernel)) _ (List.reverse_perm _)⟩

/-- The small store by a path that goes up. -/
def roundaboutCorpus : Corpus := ⟨⟨Path.ofString "/p/../p"⟩, "12-34"⟩

/-- The batch of a generation has paths that go up if the path of the project does; and of files
that only have no temporary names themselves, two orders can come to different faults. -/
theorem roundabout_goes_up :
    (∃ cards files t,
      roundaboutCorpus.Builds ⟨smallStore, [], []⟩ (.generate none) cards files t ∧
        cards.map Card.key = ["a", "b", "d"] ∧ ∃ f ∈ files, Path.up ∈ f.path.segments) ∧
      tangledFiles.Pairwise Beside ∧ (∀ f ∈ tangledFiles, Path.up ∉ f.path.segments) ∧
      (∀ f ∈ tangledFiles, ∀ n, f.path.name ≠ temporaryName "7-7" n) ∧
      (writeEach "7-7" tangledFiles .empty).1 = [] ∧
      ((writeEach "7-7" tangledFiles.reverse .empty).1.map fun x => (x.1.kind, x.2.fault)) =
        [(.card, .isAFolder)] := by
  have hdoes : Does (roundaboutCorpus.generate none) smallStore _ :=
    does_treeAfter (by decide +kernel)
  obtain ⟨w, w', paths, hw, hgenerate, -⟩ := hdoes
  obtain ⟨cards, others, t, ⟨hcards, hmakes, hwritable, hothers, -⟩, -⟩ :=
    steps_of_generate hgenerate
  rw [hw] at hcards hmakes
  have hkeys : (roundaboutCorpus.project.cards smallStore).toOption.map (List.map Card.key) =
      some ["a", "b", "d"] := by decide +kernel
  have hread : roundaboutCorpus.project.cards smallStore = .ok cards := hcards
  rw [hread] at hkeys
  refine ⟨⟨cards, _, t, .generate hcards hmakes hwritable hothers, Option.some.inj hkeys, ?_⟩,
    tangledFiles_orders⟩
  obtain ⟨rules, -, rfl⟩ := otherFiles_none.mp hothers
  exact ⟨ProgramFile.base roundaboutCorpus.folder,
    List.mem_append_right _ (by simp [sharedFiles]), by decide +kernel⟩

end CardLogic.Corpus
