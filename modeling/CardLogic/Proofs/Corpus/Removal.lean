import CardLogic.Proofs.Corpus.Upkeep

/-!
Taking cards out of a corpus.

The files of the cards go one after the other, and each that went is one location less
(`removeFiles_ok`).  Then the file of rows is written without theirs.  The store is asked
only which cards these are, so what is left is the same before and after the cards' folder
goes away (`Stands.removeCards`).
-/

namespace CardLogic.Corpus

open FileTree ProgramFile

variable {c : Corpus} {home : Location} {cards cards' removed : List Card} {rows : List String}
  {rules : List RuleFile} {t t' : FileTree} {w w' : Workspace}

/-- The files that stay if those of some cards go. -/
def withoutCards (home : Location) :
    List Card → List (ProgramFile × Slot) → List (ProgramFile × Slot)
  | [], files => files
  | card :: removed, files => withoutCards home removed (others (cardSlot home card.key) files)

theorem mem_withoutCards {files : List (ProgramFile × Slot)} {x : ProgramFile × Slot} :
    x ∈ withoutCards home removed files ↔
      x ∈ files ∧ ∀ card ∈ removed, x.2 ≠ cardSlot home card.key := by
  induction removed generalizing files with
  | nil => simp [withoutCards]
  | cons card removed ih =>
    rw [withoutCards, ih, mem_others, List.forall_mem_cons]
    tauto

/-! ## Files -/

theorem onlyProgram_of_erase {s : Slot} (hs : programAt home <+: s.folder)
    (hne : t.shapeAt s.target ≠ some .folder)
    (h : t'.shapeAt = Function.update t.shapeAt s.target none) : OnlyProgram home t t' := by
  refine ⟨fun loc hloc => ?_, fun loc hloc => ?_, fun hnames loc n hn => ?_⟩
  · rw [h, Function.update_of_ne]
    · exact hloc
    · intro hsame
      subst hsame
      exact hne hloc
  · rw [h, Function.update_of_ne]
    intro hsame
    subst hsame
    exact hloc (hs.trans (List.prefix_append _ _))
  · rw [h] at hn
    by_cases heq : loc ++ [n] = s.target
    · rw [heq, Function.update_self] at hn
      exact absurd rfl hn
    · rw [Function.update_of_ne heq] at hn
      exact hnames loc n hn

/-- The file of a card is where its slot is, if there is room to write it. -/
theorem resolve_cardPath {card : Card} (hfolder : FolderAt t c.cardsFolder (cardsAt home))
    (hkey : LegalName card.key) (hfitting : Fitting c.tag (c.cardPath card.key)) :
    t.resolve (c.cardPath card.key) = .ok (cardSlot home card.key).target := by
  have hslot := hasSlot_cardFile hfolder hkey
  have hshort := hfitting.short
  rw [cardPath_eq c hkey.no_slash, Path.name_child] at hshort
  exact hslot.resolve_target hfitting.fits hshort

theorem ok_of_removeFiles_cons {card : Card}
    (h : c.removeFiles (card :: removed) w = .ok () w') :
    ∃ b w₁, Disk.removeIfThere (c.cardPath card.key) w.tree = .ok b w₁.tree ∧
      c.removeFiles removed w₁ = .ok () w' := by
  rw [removeFiles] at h
  obtain ⟨wasThere, w₁, hdisk, h₁⟩ := Action.ok_of_bind h
  have hremove := Action.ok_of_disk hdisk
  cases wasThere with
  | true => exact ⟨true, w₁, hremove, h₁⟩
  | false =>
    obtain ⟨_, w₂, htell, h₂⟩ := Action.ok_of_bind h₁
    rw [← Action.tree_of_tell htell] at hremove
    exact ⟨false, w₂, hremove, h₂⟩

/-- Removing the files of cards takes just these from the program folder. -/
theorem removeFiles_ok {files : List (ProgramFile × Slot)}
    (hfolder : FolderAt w.tree c.cardsFolder (cardsAt home))
    (hlegal : ∀ card ∈ removed, LegalName card.key)
    (hfitting : ∀ card ∈ removed, Fitting c.tag (c.cardPath card.key))
    (hholds : HoldsJust home files w.tree.shapeAt) (h : c.removeFiles removed w = .ok () w') :
    OnlyProgram home w.tree w'.tree ∧
      HoldsJust home (withoutCards home removed files) w'.tree.shapeAt := by
  induction removed generalizing w files with
  | nil =>
    cases h
    exact ⟨OnlyProgram.refl _ _, hholds⟩
  | cons card removed ih =>
    obtain ⟨b, w₁, hremove, h₁⟩ := ok_of_removeFiles_cons h
    have hresolve := resolve_cardPath hfolder (hlegal card List.mem_cons_self)
      (hfitting card List.mem_cons_self)
    obtain ⟨hne, hshape⟩ := Disk.removeIfThere_ok hresolve hfolder.shape hremove
    have honly : OnlyProgram home w.tree w₁.tree :=
      onlyProgram_of_erase (s := cardSlot home card.key) (List.prefix_append _ _) hne hshape
    have hrest : HoldsJust home (others (cardSlot home card.key) files) w₁.tree.shapeAt := by
      rw [hshape]
      exact hholds.erase hne
    obtain ⟨honly', hholds'⟩ := ih (hfolder.of_kept honly.kept)
      (fun other hother => hlegal other (List.mem_cons_of_mem card hother))
      (fun other hother => hfitting other (List.mem_cons_of_mem card hother)) hrest h₁
    exact ⟨honly.trans honly', hholds'⟩

/-! ## Rows -/

theorem perm_otherRows (hkeys : (cards.map Card.key).Nodup) (hperm : rows.Perm (rowsOf cards))
    (hkeys' : (cards'.map Card.key).Nodup) (hremoved : ∀ card ∈ removed, card ∈ cards)
    (hstay : ∀ card, card ∈ cards' ↔ card ∈ cards ∧ card ∉ removed) :
    (otherRows removed rows).Perm (rowsOf cards') := by
  have hnodup : (otherRows removed rows).Nodup :=
    (nodup_of_perm hkeys hperm).sublist List.filter_sublist
  refine perm_rowsOf hkeys' hnodup fun row => ?_
  rw [mem_otherRows, hperm.mem_iff, mem_rowsOf]
  constructor
  · intro h
    obtain ⟨⟨card, hcard, rfl⟩, hno⟩ := h
    exact ⟨card, (hstay card).mpr ⟨hcard, fun hgone => hno card hgone rfl⟩, rfl⟩
  · intro h
    obtain ⟨card, hcard, rfl⟩ := h
    obtain ⟨hcard, hnot⟩ := (hstay card).mp hcard
    refine ⟨⟨card, hcard, rfl⟩, fun other hother heq => hnot ?_⟩
    have hsame : card = other :=
      List.inj_on_of_nodup_map hkeys hcard (hremoved other hother) (cardRow_inj heq)
    rw [hsame]
    exact hother

/-! ## Both -/

theorem wholePaths_subset (h : ∀ card ∈ cards', card ∈ cards) {p : Path}
    (hp : p ∈ c.wholePaths cards') : p ∈ c.wholePaths cards := by
  rcases List.mem_append.mp hp with hp | hp
  · obtain ⟨card, hcard, rfl⟩ := List.mem_map.mp hp
    exact List.mem_append_left _ (List.mem_map.mpr ⟨card, h card hcard, rfl⟩)
  · exact List.mem_append_right _ hp

/-- The two halves of taking cards out: their files go, and then the rows are written. -/
theorem Stands.written_of_removeCards {tree : CardTree} {keys : List String}
    (hstands : Stands c home cards rules w.tree) (htag : IsTag c.tag)
    (hreg : c.project.Regular home cards t)
    (hsubtree : ∀ affected, c.subtree tree w.tree = .ok affected → affected = removed)
    (hremoved : ∀ card ∈ removed, card ∈ cards) (h : c.removeCards tree w = .ok keys w') :
    ∃ rows t₁, rows.Perm (rowsOf cards) ∧ OnlyProgram home w.tree t₁ ∧
      HoldsJust home (withoutCards home removed (c.filesOf home cards rows rules)) t₁.shapeAt ∧
      Written c home [] [ProgramFile.cardtree c.folder (otherRows removed rows)] t₁ w'.tree := by
  obtain ⟨rows, hperm, hholds⟩ := hstands.holds
  obtain ⟨affected, rows', w₁, ⟨-, haffected, hfiles, hrows, hwrite⟩, -⟩ :=
    steps_of_removeCards hstands.isThere h
  cases hsubtree affected haffected
  have hlegal : ∀ card ∈ removed, LegalName card.key :=
    fun card hcard => hreg.legalName (hremoved card hcard)
  have hfitting : ∀ card ∈ removed, Fitting c.tag (c.cardPath card.key) := by
    intro card hcard
    refine hstands.fitting _ (List.mem_append_left _ (List.mem_map.mpr ⟨card, ?_, rfl⟩))
    exact hremoved card hcard
  obtain ⟨honly, hleft⟩ := removeFiles_ok hstands.folder hlegal hfitting hholds hfiles
  have hfolder := hstands.folder.of_kept honly.kept
  -- The file of rows is none of the files that went.
  have hcardtree : (ProgramFile.cardtree c.folder rows, sharedSlot home cardtreeName) ∈
      withoutCards home removed (c.filesOf home cards rows rules) :=
    mem_withoutCards.mpr ⟨cardtree_mem_filesOf c home cards rows rules,
      fun card _ heq => cardSlot_ne_sharedSlot _ _ heq.symm⟩
  have hread :=
    readRows_of_stands hfolder hstands.fitting (isRow_of_perm hreg hperm) hleft hcardtree
  cases hread.symm.trans hrows
  refine ⟨rows, w₁.tree, hperm, honly, hleft, ?_⟩
  refine written_of_writeEach htag hfolder (by simp) (by simp) (isShared_cardtree c _) (by simp) ?_
  simp [writeEach, hwrite]

/-- Cards taken out of a corpus leave the corpus of the others. -/
theorem Stands.removeCards {tree : CardTree} {keys : List String}
    (hstands : Stands c home cards rules w.tree) (htag : IsTag c.tag)
    (hreg : c.project.Regular home cards t)
    (hsubtree : ∀ affected, c.subtree tree w.tree = .ok affected → affected = removed)
    (hremoved : ∀ card ∈ removed, card ∈ cards) (h : c.removeCards tree w = .ok keys w') :
    OnlyProgram home w.tree w'.tree ∧
      ∀ cards' : List Card, (cards'.map Card.key).Nodup →
        (∀ card, card ∈ cards' ↔ card ∈ cards ∧ card ∉ removed) →
          Stands c home cards' rules w'.tree := by
  obtain ⟨rows, t₁, hperm, hfiles, hleft, hwritten⟩ :=
    hstands.written_of_removeCards htag hreg hsubtree hremoved h
  have honly := hfiles.trans hwritten.onlyProgram
  refine ⟨honly, fun cards' hkeys' hstay => ?_⟩
  -- What stays is what was there, but for the file of rows.
  have hcards : ∀ card ∈ cards', card ∈ ([] : List Card) ∨
      (c.cardFile card, cardSlot home card.key) ∈
        withoutCards home removed (c.filesOf home cards rows rules) ∧
          ∀ other ∈ ([] : List Card), other.key ≠ card.key := by
    intro card hcard
    obtain ⟨hcard, hnot⟩ := (hstay card).mp hcard
    refine Or.inr ⟨mem_withoutCards.mpr ⟨card_mem_filesOf hcard, ?_⟩, by simp⟩
    intro other hother heq
    rw [hreg.eq_of_key hcard (hremoved other hother) (cardSlot_inj heq)] at hnot
    exact hnot hother
  have hsteady : ∀ f ∈ c.steadyFiles rules, (f, sharedSlot home f.path.name) ∈
      withoutCards home removed (c.filesOf home cards rows rules) :=
    fun f hf => mem_withoutCards.mpr ⟨steady_mem_filesOf hf,
      fun card _ heq => cardSlot_ne_sharedSlot _ _ heq.symm⟩
  have hslots : ∀ x ∈ withoutCards home removed (c.filesOf home cards rows rules),
      ∃ y ∈ c.filesOf home cards' (otherRows removed rows) rules, y.2 = x.2 := by
    intro x hx
    obtain ⟨hx, hno⟩ := mem_withoutCards.mp hx
    refine exists_same_slot (fun card hcard hslot => ⟨card, ?_, rfl⟩) hx
    exact (hstay card).mpr ⟨hcard, fun hgone => hno card hgone hslot⟩
  refine ⟨hstands.folder.of_kept honly.kept, ?_, fun p hp => hstands.fitting p ?_,
    otherRows removed rows, perm_otherRows hreg.keys hperm hkeys' hremoved hstay, ?_⟩
  · rw [honly.ruleFiles_eq (folderAt_base hstands.folder)]
    exact hstands.readRules
  · exact wholePaths_subset (fun card hcard => ((hstay card).mp hcard).1) hp
  · rw [hwritten.shapes]
    refine hleft.putAll htag hwritten.apart hwritten.room (fun x hx => exists_cardName_of_mem hx)
      (fun x hx => mem_rowsBatch_or (fun _ => name_ne_cardtreeName) hcards hsteady hx)
      fun x hx => ?_
    cases hx with
    | inl hx => exact hslots x hx
    | inr hx => exact exists_slot_of_mem_rowsBatch _ (by simp) hx

end CardLogic.Corpus
