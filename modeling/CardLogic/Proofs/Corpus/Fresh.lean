import CardLogic.Proofs.Corpus.Upkeep

/-!
Generating a corpus where there is none.

Making the folder of the cards' files makes the program folder too and leaves both empty
(`holdsJust_of_makeFolders`).  A corpus that is in step thus tells what a generation would
leave without it: nothing is in the way of the files (`hasRoom_of_holdsJust`), so they are
written, and they are the files that stand, but for the order of the rows
(`eq_of_holdsJust`).
-/

namespace CardLogic.Corpus

open FileTree ProgramFile

variable {c : Corpus} {home : Location} {cards : List Card} {rows : List String}
  {rules : List RuleFile} {t t₁ t' : FileTree}

/-! ## Folders -/

theorem cardsAt_inj {home' : Location} (h : cardsAt home = cardsAt home') : home = home' :=
  (List.append_inj' (List.append_inj' h rfl).1 rfl).1

/-- Where a project's folder is made, there the folder of the cards' files is. -/
theorem folderAt_of_makeFolders (hbase : FolderAt t c.project.base home)
    (hmakes : Disk.makeFolders c.cardsFolder t = .ok () t₁) :
    FolderAt t₁ c.cardsFolder (cardsAt home) := by
  obtain ⟨hmade, loc, hloc⟩ := Disk.madeAlong_makeFolders hmakes
  obtain ⟨home', hfolder⟩ := exists_home hloc
  have hbase₁ := hbase.of_kept fun _ hfolder => hmade.kept hfolder
  cases hbase₁.resolve.symm.trans (folderAt_base hfolder).resolve
  exact hfolder

theorem onlyProgram_of_makeFolders (hbase : FolderAt t c.project.base home)
    (hmakes : Disk.makeFolders c.cardsFolder t = .ok () t₁) : OnlyProgram home t t₁ := by
  have hfolder := folderAt_of_makeFolders hbase hmakes
  obtain ⟨hmade, -⟩ := Disk.madeAlong_makeFolders hmakes
  refine ⟨fun loc hloc => hmade.kept hloc, fun loc hloc => ?_, fun hnames loc n hn => ?_⟩
  · by_contra hne
    rcases eq_of_madeAlong hbase hmade hfolder hne with rfl | rfl
    · exact hloc List.prefix_rfl
    · exact hloc (List.prefix_append _ _)
  · by_cases hsame : t₁.shapeAt (loc ++ [n]) = t.shapeAt (loc ++ [n])
    · rw [hsame] at hn
      exact hnames loc n hn
    · rcases eq_of_madeAlong hbase hmade hfolder hsame with heq | heq
      · have hname := (List.append_inj' heq rfl).2
        simp only [List.cons.injEq, and_true] at hname
        rw [hname]
        decide
      · have hname := (List.append_inj' heq rfl).2
        simp only [List.cons.injEq, and_true] at hname
        rw [hname]
        decide

/-- Where a file is in the way of the program folder, it cannot be made. -/
theorem noProgram_of_makeFolders (hbase : FolderAt t c.project.base home)
    (hmakes : Disk.makeFolders c.cardsFolder t = .ok () t₁)
    (hprogram : t.shapeAt (programAt home) ≠ some .folder) : t.shapeAt (programAt home) = none := by
  obtain ⟨hmade, -⟩ := Disk.madeAlong_makeFolders hmakes
  have hfolder := (folderAt_folder (folderAt_of_makeFolders hbase hmakes)).shape
  cases hshape : t.shapeAt (programAt home) with
  | none => rfl
  | some shape =>
    have hkept := hmade.kept hshape
    rw [hfolder] at hkept
    rw [hshape, ← hkept] at hprogram
    exact absurd rfl hprogram

/-- A program folder that was made is empty. -/
theorem holdsJust_of_makeFolders (hbase : FolderAt t c.project.base home)
    (hmakes : Disk.makeFolders c.cardsFolder t = .ok () t₁)
    (hnone : t.shapeAt (programAt home) = none) : HoldsJust home [] t₁.shapeAt := by
  have hfolder := folderAt_of_makeFolders hbase hmakes
  obtain ⟨hmade, -⟩ := Disk.madeAlong_makeFolders hmakes
  refine ⟨(folderAt_folder hfolder).shape, hfolder.shape, by simp, ?_⟩
  intro loc hloc hprogram hcards _
  have hsame : t₁.shapeAt loc = t.shapeAt loc := by
    by_contra hne
    rcases eq_of_madeAlong hbase hmade hfolder hne with heq | heq
    · exact hprogram heq
    · exact hcards heq
  obtain ⟨rest, rfl⟩ := hloc
  rw [hsame]
  exact shapeAt_of_above_eq_none hnone rest

/-- In a project without a program folder both folders can be made. -/
theorem exists_makeFolders (hbase : FolderAt t c.project.base home) (hfits : c.cardsFolder.Fits)
    (hnone : t.shapeAt (programAt home) = none) :
    ∃ t₁, Disk.makeFolders c.cardsFolder t = .ok () t₁ := by
  have hresolve : t.resolve c.folder = .ok (programAt home) :=
    hbase.resolve_child (by decide) (by decide) hfits.of_child
  have hprogram := Disk.makeFolders_child_of_none hresolve hnone
  have hshape := shapeAt_setEmptyFolder hbase.shape hnone
  have hkept : ∀ loc, t.shapeAt loc = some .folder →
      (t.setEmptyFolder (programAt home)).shapeAt loc = some .folder := by
    intro loc hloc
    by_cases heq : loc = programAt home
    · rw [heq, hnone] at hloc
      exact absurd hloc (by simp)
    · exact (congrFun hshape loc).trans ((Function.update_of_ne heq _ _).trans hloc)
  have hfolder : FolderAt (t.setEmptyFolder (programAt home)) c.folder (programAt home) :=
    ⟨resolve_of_kept hkept hresolve,
      (congrFun hshape (programAt home)).trans (Function.update_self _ _ _)⟩
  have hcards : (t.setEmptyFolder (programAt home)).shapeAt (cardsAt home) = none := by
    have hne : cardsAt home ≠ programAt home := cardsAt_ne_programAt home
    refine (congrFun hshape (cardsAt home)).trans ((Function.update_of_ne hne _ _).trans ?_)
    exact shapeAt_of_above_eq_none hnone _
  exact ⟨_, Disk.makeFolders_child_of_missing hresolve hnone hfits hprogram
    (hfolder.resolve_child (by decide) (by decide) hfits) hcards⟩

/-! ## Room -/

theorem cardName_ne_cardsFolder (k : String) : cardName k ≠ ProgramFile.cardsFolder := by
  intro h
  have hlast := congrArg (fun s : String => s.toList.getLast?) h
  have hlp : ".lp".toList.getLast? = some 'p' := by decide
  have hcards : ProgramFile.cardsFolder.toList.getLast? = some 's' := by decide
  simp only [toList_cardName, List.getLast?_append, hlp, hcards] at hlast
  exact absurd hlast (by simp)

theorem temporaryName_ne_cardsFolder (tag n : String) :
    temporaryName tag n ≠ ProgramFile.cardsFolder := by
  intro h
  have hhead := congrArg (fun s : String => s.toList.head?) h
  unfold temporaryName at hhead
  have hdot : ".".toList.head? = some '.' := by decide
  have hcards : ProgramFile.cardsFolder.toList.head? = some 'c' := by decide
  simp only [String.toList_append, List.head?_append, hdot, hcards] at hhead
  exact absurd hhead (by simp)

/-- In a program folder that holds just some files no folder has the name of another
entry. -/
theorem HoldsJust.ne_folder {files : List (ProgramFile × Slot)}
    {shapes : Location → Option Shape} (h : HoldsJust home files shapes) {a : Location}
    {n : String} (ha : a = cardsAt home ∨ a = programAt home) (hn : n ≠ ProgramFile.cardsFolder) :
    shapes (a ++ [n]) ≠ some .folder := by
  have hbelow : programAt home <+: a ++ [n] := by
    rcases ha with rfl | rfl
    · exact ⟨[ProgramFile.cardsFolder, n], by simp [cardsAt]⟩
    · exact List.prefix_append _ _
  have hprogram : a ++ [n] ≠ programAt home := by
    rcases ha with rfl | rfl
    · simp [cardsAt]
    · simp
  have hcards : a ++ [n] ≠ cardsAt home := by
    intro heq
    have hname := (List.append_inj' heq rfl).2
    simp only [List.cons.injEq, and_true] at hname
    exact hn hname
  by_cases hfile : ∃ x ∈ files, a ++ [n] = x.2.target
  · obtain ⟨x, hx, heq⟩ := hfile
    rw [heq, (h.stands x hx).2]
    simp
  · rw [h.nothing _ hbelow hprogram hcards fun x hx heq => hfile ⟨x, hx, heq⟩]
    simp

/-- The texts of a corpus are whole if those of its cards are. -/
theorem isWhole_of_mem_filesOf (hcards : ∀ card ∈ cards, card.text.isWhole = true)
    {x : ProgramFile × Slot} (hx : x ∈ c.filesOf home cards rows rules) :
    x.1.text.isWhole = true := by
  rcases mem_batch.mp hx with ⟨card, hcard, rfl⟩ | ⟨f, hf, rfl⟩
  · exact hcards card hcard
  · simp only [sharedFiles, List.mem_cons, List.not_mem_nil, or_false] at hf
    rcases hf with rfl | rfl | rfl | rfl
    · simp only [ProgramFile.cardtree, Text.isWhole_ofString]
    · exact Text.isWhole_ofChars _
    · simp only [ProgramFile.modules, Text.isWhole_ofString]
    · simp only [ProgramFile.main, Text.isWhole_ofString]

theorem hasRoom_of_holdsJust {files : List (ProgramFile × Slot)}
    (hfolder : FolderAt t c.cardsFolder (cardsAt home))
    (hlegal : ∀ card ∈ cards, LegalName card.key)
    (hwhole : ∀ card ∈ cards, card.text.isWhole = true)
    (hfitting : ∀ p ∈ c.wholePaths cards, Fitting c.tag p)
    (hholds : HoldsJust home files t.shapeAt) {x : ProgramFile × Slot}
    (hx : x ∈ c.filesOf home cards rows rules) : HasRoom c.tag t x.1 x.2 := by
  have hshared := isShared_sharedFiles c rows rules
  have hslot := hasSlot_batch hfolder hlegal hshared x hx
  have hname : x.1.path.name = x.2.name := by rw [hslot.path, Path.name_child]
  obtain ⟨hfits, hshort⟩ := hfitting _ (path_mem_wholePaths hx)
  obtain ⟨hfolders, k, hk⟩ := slot_of_mem_batch hshared hx
  rw [hname] at hshort
  refine ⟨⟨hfits, hshort, ?_⟩, isWhole_of_mem_filesOf hwhole hx, ?_⟩
  · exact hholds.ne_folder hfolders (temporaryName_ne_cardsFolder c.tag x.2.name)
  · refine hholds.ne_folder hfolders ?_
    rw [hk]
    exact cardName_ne_cardsFolder k

/-! ## Without the program folder -/

/-- The project of a tree without its program folder. -/
structure ProgramRemoved (c : Corpus) (home : Location) (t t' : FileTree) : Prop where
  base : FolderAt t' c.project.base home
  shapes : ∀ loc, t'.shapeAt loc = if programAt home <+: loc then none else t.shapeAt loc

theorem programRemoved_remove {t₀ : FileTree} (h₀ : FolderAt t₀ c.project.base home)
    (hnone : t₀.shapeAt (programAt home) = none) (hbase : FolderAt t c.project.base home) :
    ProgramRemoved c home t (t.remove (programAt home)) := by
  have hshapes : ∀ loc, (t.remove (programAt home)).shapeAt loc =
      if programAt home <+: loc then none else t.shapeAt loc :=
    fun loc => shapeAt_remove hbase.shape loc
  have hhome : ¬ programAt home <+: home := by
    intro hpre
    have hlen := hpre.length_le
    unfold programAt at hlen
    rw [List.length_append, List.length_singleton] at hlen
    omega
  refine ⟨FolderAt.of_kept_both (fun loc hloc₀ hloc => ?_) h₀ hbase ?_, hshapes⟩
  · rw [hshapes, if_neg]
    · exact hloc
    · intro h
      obtain ⟨rest, rfl⟩ := h
      rw [shapeAt_of_above_eq_none hnone rest] at hloc₀
      exact absurd hloc₀ (by simp)
  · rw [hshapes, if_neg hhome]
    exact hbase.shape

namespace ProgramRemoved

theorem elsewhere (h : ProgramRemoved c home t t') {loc : Location}
    (hloc : ¬ programAt home <+: loc) :
    t'.shapeAt loc = t.shapeAt loc := by
  rw [h.shapes, if_neg hloc]

theorem legalNames (h : ProgramRemoved c home t t') (hnames : t.LegalNames) : t'.LegalNames := by
  intro loc n hn
  rw [h.shapes] at hn
  split at hn
  · exact absurd rfl hn
  · exact hnames loc n hn

theorem regular (h : ProgramRemoved c home t t') (hreg : c.project.Regular home cards t) :
    c.project.Regular home cards t' :=
  hreg.congr (h.legalNames hreg.names) h.base fun loc =>
    h.elsewhere (not_below_programAt (by decide) loc)

theorem ruleFiles_eq (h : ProgramRemoved c home t t') (hbase : FolderAt t c.project.base home) :
    c.project.ruleFiles t' = c.project.ruleFiles t :=
  Project.ruleFiles_congr hbase h.base fun rest =>
    h.elsewhere (not_below_programAt (by decide) rest)

end ProgramRemoved

/-! ## Generating -/

/-- What there is to generate, and nothing in the way of it. -/
structure Ready (c : Corpus) (home : Location) (cards : List Card) (rules : List RuleFile)
    (t t₁ : FileTree) : Prop where
  regular : c.project.Regular home cards t
  makes : Disk.makeFolders c.cardsFolder t = .ok () t₁
  readRules : c.project.ruleFiles t = .ok rules
  whole : ∀ card ∈ cards, card.text.isWhole = true
  fitting : ∀ p ∈ c.wholePaths cards, Fitting c.tag p
  holds : ∃ old, HoldsJust home old t₁.shapeAt ∧
    ∀ x ∈ old, ∃ y ∈ c.filesOf home cards (rowsOf cards) rules, y.2 = x.2

theorem Stands.isWhole (h : Stands c home cards rules t) :
    ∀ card ∈ cards, card.text.isWhole = true := by
  obtain ⟨rows, -, hholds⟩ := h.holds
  exact fun card hcard => (hholds.stands _ (card_mem_filesOf hcard)).1

theorem InStep.ready (h : InStep c home cards rules t) : Ready c home cards rules t t := by
  obtain ⟨rows, -, hholds⟩ := h.holds
  refine ⟨h.regular, Disk.makeFolders_of_folder h.folder, h.readRules, h.isWhole, h.fitting, _,
    hholds, ?_⟩
  exact fun x hx => exists_same_slot (fun card hcard _ => ⟨card, hcard, rfl⟩) hx

theorem InStep.ready_of_removed (h : InStep c home cards rules t)
    (hremoved : ProgramRemoved c home t t') :
    ∃ t₁, Ready c home cards rules t' t₁ := by
  have hnone : t'.shapeAt (programAt home) = none := by
    rw [hremoved.shapes, if_pos List.prefix_rfl]
  obtain ⟨t₁, hmakes⟩ := exists_makeFolders hremoved.base h.folder.fits hnone
  refine ⟨t₁, hremoved.regular h.regular, hmakes, ?_, h.isWhole, h.fitting, [],
    holdsJust_of_makeFolders hremoved.base hmakes hnone, by simp⟩
  rw [hremoved.ruleFiles_eq h.regular.base]
  exact h.readRules

/-- A generation for which all is ready comes to its end, and leaves the corpus of the cards
with the rows in the order of the listing. -/
theorem Ready.generate {w : Workspace} (h : Ready c home cards rules w.tree t₁)
    (htag : IsTag c.tag) :
    ∃ w', c.generate none w = .ok (c.wholePaths cards) w' ∧ OnlyProgram home w.tree w'.tree ∧
      HoldsJust home (c.filesOf home cards (rowsOf cards) rules) w'.tree.shapeAt := by
  obtain ⟨old, hold, hslots⟩ := h.holds
  have hfolder := folderAt_of_makeFolders h.regular.base h.makes
  have honly := onlyProgram_of_makeFolders h.regular.base h.makes
  have hreg := honly.regular h.regular
  have hlegal : ∀ card ∈ cards, LegalName card.key := fun _ => hreg.legalName
  have hrules : c.project.ruleFiles t₁ = .ok rules := by
    rw [honly.ruleFiles_eq h.regular.base]
    exact h.readRules
  obtain ⟨w', hgenerate, hwhole⟩ := generate_of_room h.regular.readCards hlegal h.makes hfolder
    hrules fun x hx => hasRoom_of_holdsJust hfolder hlegal h.whole h.fitting hold hx
  rw [map_path_sharedFiles] at hgenerate
  exact ⟨w', hgenerate, honly.trans (hwhole.written htag hlegal hreg.keys).onlyProgram,
    hwhole.holdsJust htag hreg hold hslots⟩

/-- Two corpora of the same cards and rules differ at most in the file of rows. -/
theorem eq_of_holdsJust {rows' : List String}
    {shapes shapes' : Location → Option Shape}
    (h : HoldsJust home (c.filesOf home cards rows rules) shapes)
    (h' : HoldsJust home (c.filesOf home cards rows' rules) shapes') {loc : Location}
    (hloc : programAt home <+: loc) (hne : loc ≠ programAt home ++ [cardtreeName]) :
    shapes loc = shapes' loc := by
  have hother : ∀ (rows rows' : List String) (x : ProgramFile × Slot),
      x.2 ≠ sharedSlot home cardtreeName → x ∈ c.filesOf home cards rows rules →
        x ∈ c.filesOf home cards rows' rules := by
    intro rows rows' x hslot hx
    rcases mem_batch.mp hx with ⟨card, hcard, rfl⟩ | ⟨f, hf, rfl⟩
    · exact card_mem_filesOf hcard
    · rcases mem_sharedFiles.mp hf with rfl | hf
      · exact absurd (congrArg (sharedSlot home) (Path.name_child _ _)) hslot
      · exact steady_mem_filesOf hf
  refine h.eq_at h' hloc fun x hx => ?_
  have hslot : x.2 ≠ sharedSlot home cardtreeName := by
    intro heq
    rw [hx, heq] at hne
    exact hne rfl
  exact ⟨hother rows rows' x hslot, hother rows' rows x hslot⟩

end CardLogic.Corpus
