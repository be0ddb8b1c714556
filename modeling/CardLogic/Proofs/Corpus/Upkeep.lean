import CardLogic.Proofs.Corpus.Standing

/-!
Writing files of a corpus, and the corpus that then stands.

A whole generation writes every file (`inStep_of_whole`).  A generation for some cards
writes theirs and the rows, and is enough if no other card came or changed
(`inStep_of_scoped`).
-/

namespace CardLogic.Corpus

open FileTree ProgramFile

variable {c : Corpus} {home : Location} {cards cards' : List Card} {rows : List String}
  {rules : List RuleFile} {t t₁ t' : FileTree}

/-! ## Batches -/

/-- A batch of a corpus that was written. -/
structure Written (c : Corpus) (home : Location) (cards : List Card) (others : List ProgramFile)
    (t t' : FileTree) : Prop extends Placed c.tag (c.batch home cards others) t t' where
  shared : ∀ f ∈ others, c.IsShared f
  legal : ∀ card ∈ cards, LegalName card.key

theorem written_of_writeEach {others : List ProgramFile} (htag : IsTag c.tag)
    (hfolder : FolderAt t c.cardsFolder (cardsAt home))
    (hlegal : ∀ card ∈ cards, LegalName card.key) (hkeys : (cards.map Card.key).Nodup)
    (hshared : ∀ f ∈ others, c.IsShared f) (hnames : (others.map fun f => f.path.name).Nodup)
    (h : writeEach c.tag (cards.map c.cardFile ++ others) t = ([], t')) :
    Written c home cards others t t' := by
  rw [← map_fst_batch c home] at h
  exact ⟨placed_of_writeEach (hasSlot_batch hfolder hlegal hshared)
    (apart_batch htag hkeys hshared hnames) h, hshared, hlegal⟩

namespace Written

variable {others : List ProgramFile}

theorem legalName (h : Written c home cards others t t') {x : ProgramFile × Slot}
    (hx : x ∈ c.batch home cards others) : LegalName x.2.name := by
  have hshort := (h.room x hx).short
  have hsize := utf8ByteSize_temporaryName c.tag x.2.name
  rcases List.mem_append.mp hx with hx | hx
  · obtain ⟨card, hcard, rfl⟩ := List.mem_map.mp hx
    exact legalName_cardName (h.legal card hcard)
      (by change (cardName card.key).utf8ByteSize + 6 ≤ _ at hsize; omega)
  · obtain ⟨f, hf, rfl⟩ := List.mem_map.mp hx
    have hall : ∀ n ∈ sharedNames, LegalName n := by decide
    exact hall _ (path_sharedSlot (h.shared f hf)).1

theorem onlyProgram (h : Written c home cards others t t') : OnlyProgram home t t' := by
  refine ⟨h.kept, fun loc hloc => ?_, fun hnames loc n hn => ?_⟩
  · rw [h.shapes]
    exact putAll_batch_of_not_below h.shared hloc
  · by_cases htarget : ∃ x ∈ c.batch home cards others, loc ++ [n] = x.2.target
    · obtain ⟨x, hx, heq⟩ := htarget
      have hname := (List.append_inj' heq rfl).2
      simp only [List.cons.injEq, and_true] at hname
      rw [hname]
      exact h.legalName hx
    · by_cases htemporary : ∃ x ∈ c.batch home cards others, loc ++ [n] = x.2.temporary c.tag
      · obtain ⟨⟨f, s⟩, hx, heq⟩ := htemporary
        rw [heq, h.temporary hx] at hn
        exact absurd rfl hn
      · rw [h.elsewhere fun x hx =>
          ⟨fun heq => htarget ⟨x, hx, heq⟩, fun heq => htemporary ⟨x, hx, heq⟩⟩] at hn
        exact hnames loc n hn

theorem fitting (h : Written c home cards others t t') {x : ProgramFile × Slot}
    (hx : x ∈ c.batch home cards others) : Fitting c.tag x.1.path := by
  have hroom := h.room x hx
  have hname : x.1.path.name = x.2.name := by rw [(h.slots x hx).path, Path.name_child]
  refine ⟨hroom.fits, ?_⟩
  rw [hname]
  exact hroom.short

end Written

/-! ## Whole generations -/

theorem Whole.written (h : c.Whole home cards rules t t₁ t') (htag : IsTag c.tag)
    (hlegal : ∀ card ∈ cards, LegalName card.key) (hkeys : (cards.map Card.key).Nodup) :
    Written c home cards (c.sharedFiles (rowsOf cards) rules) t₁ t' :=
  ⟨h.placed htag hkeys hlegal, isShared_sharedFiles c (rowsOf cards) rules, hlegal⟩

/-- A whole generation leaves the corpus of the cards, their rows in the order of the
listing. -/
theorem Whole.holdsJust {old : List (ProgramFile × Slot)} (h : c.Whole home cards rules t t₁ t')
    (htag : IsTag c.tag) (hreg : c.project.Regular home cards t₁)
    (hold : HoldsJust home old t₁.shapeAt)
    (hslots : ∀ x ∈ old, ∃ y ∈ c.filesOf home cards (rowsOf cards) rules, y.2 = x.2) :
    HoldsJust home (c.filesOf home cards (rowsOf cards) rules) t'.shapeAt := by
  rw [h.shapes]
  refine hold.putAll htag (apart_shared htag hreg.keys (rowsOf cards) rules) h.room
    (fun x hx => exists_cardName_of_mem hx) (fun x hx => Or.inl hx) ?_
  intro x hmem
  rcases hmem with hx | hx
  · exact hslots x hx
  · exact ⟨x, hx, rfl⟩

/-- A corpus is in step after a whole generation. -/
theorem inStep_of_whole {old : List (ProgramFile × Slot)} (htag : IsTag c.tag)
    (hreg : c.project.Regular home cards t₁) (hwhole : c.Whole home cards rules t t₁ t')
    (hold : HoldsJust home old t₁.shapeAt)
    (hslots : ∀ x ∈ old, ∃ y ∈ c.filesOf home cards (rowsOf cards) rules, y.2 = x.2) :
    InStep c home cards rules t' := by
  have hwritten := hwhole.written htag (fun _ => hreg.legalName) hreg.keys
  have honly := hwritten.onlyProgram
  refine ⟨⟨hwhole.folder.of_kept honly.kept, ?_, fun p hp => ?_, rowsOf cards,
    List.Perm.refl _, hwhole.holdsJust htag hreg hold hslots⟩, honly.regular hreg⟩
  · rw [honly.ruleFiles_eq hreg.base]
    exact hwhole.readRules
  · obtain ⟨x, hx, rfl⟩ := exists_file_of_path hp (rowsOf cards) rules
    exact hwritten.fitting hx

/-! ## Some cards and the rows -/

/-- Writing some cards and the rows leaves every other file to those that stand. -/
theorem mem_rowsBatch_or {newCards : List Card} {steady : List ProgramFile}
    {old : List (ProgramFile × Slot)} (hnames : ∀ f ∈ steady, f.path.name ≠ cardtreeName)
    (hcards : ∀ card ∈ cards, card ∈ newCards ∨
      (c.cardFile card, cardSlot home card.key) ∈ old ∧ ∀ other ∈ newCards, other.key ≠ card.key)
    (hsteady : ∀ f ∈ steady, (f, sharedSlot home f.path.name) ∈ old) {x : ProgramFile × Slot}
    (hx : x ∈ c.batch home cards (ProgramFile.cardtree c.folder rows :: steady)) :
    x ∈ c.batch home newCards [ProgramFile.cardtree c.folder rows] ∨
      x ∈ old ∧ ∀ y ∈ c.batch home newCards [ProgramFile.cardtree c.folder rows], y.2 ≠ x.2 := by
  rcases mem_batch.mp hx with ⟨card, hcard, rfl⟩ | ⟨f, hf, rfl⟩
  · rcases hcards card hcard with hnew | ⟨hold, hother⟩
    · exact Or.inl (mem_batch.mpr (Or.inl ⟨card, hnew, rfl⟩))
    · refine Or.inr ⟨hold, fun y hy heq => ?_⟩
      rcases mem_batch.mp hy with ⟨other, hmem, rfl⟩ | ⟨f, -, rfl⟩
      · exact hother other hmem (cardSlot_inj heq)
      · exact cardSlot_ne_sharedSlot _ _ heq.symm
  · rcases List.mem_cons.mp hf with rfl | hf
    · exact Or.inl (mem_batch.mpr (Or.inr ⟨_, List.mem_singleton.mpr rfl, rfl⟩))
    · refine Or.inr ⟨hsteady f hf, fun y hy heq => ?_⟩
      rcases mem_batch.mp hy with ⟨other, -, rfl⟩ | ⟨g, hg, rfl⟩
      · exact cardSlot_ne_sharedSlot _ _ heq
      · rw [List.mem_singleton.mp hg] at heq
        exact hnames f hf ((congrArg Slot.name heq).symm.trans (Path.name_child _ _))

theorem exists_slot_of_mem_rowsBatch {newCards : List Card} {newRows : List String}
    (steady : List ProgramFile) (hnew : ∀ card ∈ newCards, card ∈ cards) {x : ProgramFile × Slot}
    (hx : x ∈ c.batch home newCards [ProgramFile.cardtree c.folder newRows]) :
    ∃ y ∈ c.batch home cards (ProgramFile.cardtree c.folder rows :: steady), y.2 = x.2 := by
  rcases mem_batch.mp hx with ⟨card, hcard, rfl⟩ | ⟨f, hf, rfl⟩
  · exact ⟨_, mem_batch.mpr (Or.inl ⟨card, hnew card hcard, rfl⟩), rfl⟩
  · rw [List.mem_singleton.mp hf]
    exact ⟨_, mem_batch.mpr (Or.inr ⟨_, List.mem_cons_self, rfl⟩), rfl⟩

theorem perm_mergeRows {newCards : List Card} (hkeys : (cards.map Card.key).Nodup)
    (hperm : rows.Perm (rowsOf cards)) (hkeys' : (cards'.map Card.key).Nodup)
    (hnew : ∀ card ∈ newCards, card ∈ cards')
    (hkeep : ∀ card ∈ cards', card ∈ newCards ∨ card ∈ cards)
    (hsame : ∀ card ∈ cards, ∃ card' ∈ cards', card'.key = card.key) :
    (mergeRows rows (newCards.map Card.key)).Perm (rowsOf cards') := by
  refine perm_rowsOf hkeys' (nodup_mergeRows (nodup_of_perm hkeys hperm) _) fun row => ?_
  rw [mem_mergeRows, hperm.mem_iff, mem_rowsOf]
  constructor
  · intro h
    rcases h with ⟨card, hcard, rfl⟩ | ⟨k, hk, rfl⟩
    · obtain ⟨card', hcard', hkey⟩ := hsame card hcard
      exact ⟨card', hcard', by rw [hkey]⟩
    · obtain ⟨card, hcard, rfl⟩ := List.mem_map.mp hk
      exact ⟨card, hnew card hcard, rfl⟩
  · intro ⟨card, hcard, hrow⟩
    rcases hkeep card hcard with hcard | hcard
    · exact Or.inr ⟨card.key, List.mem_map_of_mem hcard, hrow⟩
    · exact Or.inl ⟨card, hcard, hrow⟩

/-- A corpus is in step after some cards were written, and rows added for them, if no other
card came or changed. -/
theorem inStep_of_scoped {newCards : List Card} {t₀ : FileTree} (htag : IsTag c.tag)
    (hstands : Stands c home cards rules t) (hreg₀ : c.project.Regular home cards t₀)
    (hreg : c.project.Regular home cards' t) (hread : readRows t c.cardtreePath = .ok rows)
    (hwrite : writeEach c.tag (newCards.map c.cardFile ++
      [ProgramFile.cardtree c.folder (mergeRows rows (newCards.map Card.key))]) t = ([], t'))
    (hkeys : (newCards.map Card.key).Nodup) (hnew : ∀ card ∈ newCards, card ∈ cards')
    (hkeep : ∀ card ∈ cards', card ∈ newCards ∨ card ∈ cards)
    (hsame : ∀ card ∈ cards, ∃ card' ∈ cards', card'.key = card.key) :
    InStep c home cards' rules t' := by
  obtain ⟨rows₀, hperm, hold⟩ := hstands.holds
  have hrows := readRows_of_stands hstands.folder hstands.fitting (isRow_of_perm hreg₀ hperm) hold
    (cardtree_mem_filesOf c home cards rows₀ rules)
  cases hrows.symm.trans hread
  have hwritten := written_of_writeEach htag hstands.folder
    (fun card hcard => hreg.legalName (hnew card hcard)) hkeys (isShared_cardtree c _) (by simp)
    hwrite
  have honly := hwritten.onlyProgram
  have hmerged := perm_mergeRows hreg₀.keys hperm hreg.keys hnew hkeep hsame
  have hcards : ∀ card ∈ cards', card ∈ newCards ∨
      (c.cardFile card, cardSlot home card.key) ∈ c.filesOf home cards rows rules ∧
        ∀ other ∈ newCards, other.key ≠ card.key := by
    intro card hcard
    by_cases hin : card ∈ newCards
    · exact Or.inl hin
    · refine Or.inr ⟨card_mem_filesOf ((hkeep card hcard).resolve_left hin), ?_⟩
      intro other hother heq
      rw [hreg.eq_of_key (hnew other hother) hcard heq] at hother
      exact hin hother
  have hall : ∀ x ∈ c.filesOf home cards' (mergeRows rows (newCards.map Card.key)) rules,
      _ ∨ x ∈ c.filesOf home cards rows rules ∧ _ :=
    fun x hx => mem_rowsBatch_or (fun _ => name_ne_cardtreeName) hcards
      (fun f hf => steady_mem_filesOf hf) hx
  refine ⟨⟨hstands.folder.of_kept honly.kept, ?_, fun p hp => ?_, _, hmerged, ?_⟩,
    honly.regular hreg⟩
  · rw [honly.ruleFiles_eq hreg.base]
    exact hstands.readRules
  · obtain ⟨x, hx, rfl⟩ := exists_file_of_path hp (mergeRows rows (newCards.map Card.key)) rules
    rcases hall x hx with hx | ⟨hx, -⟩
    · exact hwritten.fitting hx
    · exact hstands.fitting _ (path_mem_wholePaths hx)
  · rw [hwritten.shapes]
    refine hold.putAll htag hwritten.apart hwritten.room (fun x hx => exists_cardName_of_mem hx)
      hall ?_
    intro x h
    rcases h with hx | hx
    · exact exists_same_slot (fun card hcard _ => hsame card hcard) hx
    · exact exists_slot_of_mem_rowsBatch _ hnew hx

end CardLogic.Corpus
