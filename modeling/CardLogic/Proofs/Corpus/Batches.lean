import CardLogic.Proofs.Corpus.Merging
import CardLogic.Proofs.Corpus.Run

/-!
Batches of cards.

Cards of a regular store can be taken in all at once or one after another: the corpus is the same
to the byte (`Batches.append`).  Within a batch a card that is listed twice, itself or below
another, is dropped for its key; between calls its row is found in the file of rows and left alone.
Both come to the same, since to merge rows once more adds none (`mergeRows_firstOfEachKey`,
`mergeRows_append`), and since the file of a card is written for the card alone (`FilesIn.trans`).
The order in which cards come shows in the order of their rows and nowhere else (`Batches.perm`).
-/

namespace CardLogic.Corpus

open FileTree ProgramFile

/-- The cards that are given, by their keys, are cards of the store. -/
def Known (cards : List Card) (trees : List CardTree) : Prop :=
  ∀ tree ∈ trees, ∃ card ∈ cards, card.key = tree.card.key

/-- Two calls that wrote the same files, but for the order of the rows. -/
structure SameButOrder (c : Corpus) (paths paths' : List Path) (t t' : FileTree) : Prop where
  paths : paths.Perm paths'
  shapes : ∀ loc, loc ≠ (sharedSlot c.home cardtreeName).target → t.shapeAt loc = t'.shapeAt loc
  rows : ∃ rows rows', readRows t c.cardtreePath = .ok rows ∧
    readRows t' c.cardtreePath = .ok rows' ∧ rows.Perm rows'

/-- How calls with batches of cards that the store has compare, from one tree on. -/
structure Batches (c : Corpus) (cards : List Card) (t : FileTree) : Prop where
  append : ∀ xs ys, Known cards (xs ++ ys) → ∀ {t' t₁ t₂},
    Does (c.addCards (xs ++ ys)) t t' → Does (c.addCards xs) t t₁ → Does (c.addCards ys) t₁ t₂ →
      t' = t₂
  perm : ∀ xs ys, Known cards xs → xs.Perm ys → ∀ {w₁ w₁' w₂ w₂' paths paths'},
    w₁.tree = t → c.addCards xs w₁ = .ok paths w₁' →
    w₂.tree = t → c.addCards ys w₂ = .ok paths' w₂' →
      c.SameButOrder paths paths' w₁'.tree w₂'.tree

/-- The files of some cards stand in a tree, and but for them and for the file of rows all is as
in another. -/
structure FilesIn (c : Corpus) (cards : List Card) (t t' : FileTree) : Prop where
  stands : ∀ card ∈ cards, card.text.StandsIn (t'.shapeAt (cardSlot c.home card.key).target)
  temporary : ∀ s ∈ c.mergeSlots cards, t'.shapeAt (s.temporary c.tag) = none
  folder : cards ≠ [] ∨ t.shapeAt (cardsAt c.home) = some .folder →
    t'.shapeAt (cardsAt c.home) = some .folder
  same : ∀ loc, (∀ s ∈ c.mergeSlots cards, loc ≠ s.target ∧ loc ≠ s.temporary c.tag) →
    (cards ≠ [] → loc ≠ cardsAt c.home) → t'.shapeAt loc = t.shapeAt loc

variable {c : Corpus} {home : Location} {cards as bs : List Card} {rows : List String}
  {xs ys trees : List CardTree}
  {t t₁ t₂ t' : FileTree} {w w' : Workspace} {paths : List Path}

/-! ## Rows -/

theorem mergeRows_append (rows keys more : List String) :
    mergeRows rows (keys ++ more) = mergeRows (mergeRows rows keys) more := by
  induction keys generalizing rows with
  | nil => rfl
  | cons k ks ih =>
    rw [List.cons_append, mergeRows, mergeRows]
    exact ih _

/-- A key that has its row adds none, wherever it comes. -/
theorem mergeRows_filter_ne {key : String} {rows : List String} (h : cardRow key ∈ rows)
    (keys : List String) : mergeRows rows (keys.filter fun k => k ≠ key) = mergeRows rows keys := by
  induction keys generalizing rows with
  | nil => rfl
  | cons k ks ih =>
    by_cases hk : k = key
    · subst hk
      rw [List.filter_cons_of_neg (by simp), mergeRows, if_pos h]
      exact ih h
    · rw [List.filter_cons_of_pos (by simpa using hk), mergeRows, mergeRows]
      refine ih ?_
      split
      · exact h
      · exact List.mem_append_left _ h

/-- To drop a card for its key is to find its row. -/
theorem mergeRows_firstOfEachKey (rows : List String) (cards : List Card) :
    mergeRows rows ((firstOfEachKey cards).map Card.key) = mergeRows rows (cards.map Card.key) := by
  induction cards generalizing rows with
  | nil => rfl
  | cons card cards ih =>
    have hkeys : ((firstOfEachKey cards).filter fun other => other.key ≠ card.key).map Card.key =
        ((firstOfEachKey cards).map Card.key).filter fun k => k ≠ card.key := by
      rw [List.filter_map]
      rfl
    have hrow : cardRow card.key ∈
        if cardRow card.key ∈ rows then rows else rows ++ [cardRow card.key] := by
      split
      · assumption
      · exact List.mem_append_right _ List.mem_cons_self
    rw [firstOfEachKey, List.map_cons, List.map_cons, mergeRows, mergeRows, hkeys]
    exact (mergeRows_filter_ne hrow _).trans (ih _)

/-! ## Files -/

theorem mem_mergeSlots {s : Slot} : s ∈ c.mergeSlots cards ↔
    (∃ card ∈ cards, s = cardSlot c.home card.key) ∨ s = sharedSlot c.home cardtreeName := by
  unfold mergeSlots
  rw [List.mem_append, List.mem_map, List.mem_singleton]
  exact or_congr_left ⟨fun ⟨card, hcard, h⟩ => ⟨card, hcard, h.symm⟩,
    fun ⟨card, hcard, h⟩ => ⟨card, hcard, h.symm⟩⟩

theorem mergeSlots_subset (h : ∀ card ∈ as, card ∈ bs) {s : Slot} (hs : s ∈ c.mergeSlots as) :
    s ∈ c.mergeSlots bs := by
  rcases mem_mergeSlots.mp hs with ⟨card, hcard, rfl⟩ | rfl
  · exact mem_mergeSlots.mpr (Or.inl ⟨card, h card hcard, rfl⟩)
  · exact mem_mergeSlots.mpr (Or.inr rfl)

/-- No temporary place is that of a file. -/
theorem temporary_ne_of_mem_mergeSlots (htag : IsTag c.tag) (s : Slot) {s' : Slot}
    (hs : s' ∈ c.mergeSlots cards) : s.temporary c.tag ≠ s'.target := by
  rw [← map_snd_mergeBatch c cards []] at hs
  obtain ⟨x, hx, rfl⟩ := List.mem_map.mp hs
  exact temporary_ne_of_mem_batch htag (isShared_cardtree c _) s hx

theorem temporary_ne_cardSlot (htag : IsTag c.tag) (s : Slot) (key : String) :
    s.temporary c.tag ≠ (cardSlot home key).target := by
  intro heq
  have hname := (List.append_inj' heq rfl).2
  simp only [List.cons.injEq, and_true] at hname
  exact temporaryName_ne_cardName htag s.name key hname

namespace FilesIn

theorem of_merged (h : c.Merged cards rows t t₁ t') (htag : IsTag c.tag) (hkeys : MergeKeys cards)
    (hprogram : FolderAt t c.folder (programAt c.home)) : c.FilesIn cards t t' := by
  have hplaced := h.placed htag hkeys
  refine ⟨fun card hcard => hplaced.stands (card_mem_mergeBatch rows hcard),
    fun s => h.temporary_after htag hkeys, fun hwhere => hplaced.kept _ ?_,
    fun loc hout hcards => ?_⟩
  · rcases hwhere with hne | hfolder
    · exact (h.cardsFolder hne).shape
    · exact h.made.kept hfolder
  · rw [h.shapeAt_of_out htag hkeys hout]
    by_contra hne
    -- Of the two folders on the way the first was there.
    by_cases hnil : cards = []
    · exact hne (by rw [h.still hnil])
    · have hbase := base_of_folder hprogram
      rcases eq_of_madeAlong hbase h.made (h.cardsFolder hnil) hne with rfl | rfl
      · exact hne ((h.made.kept hprogram.shape).trans hprogram.shape.symm)
      · exact hcards hnil rfl

/-- A place for the file of a card that is none of the cards' is left as it is. -/
theorem target_same (h : c.FilesIn cards t t') (htag : IsTag c.tag) {key : String}
    (hkey : cardSlot c.home key ∉ c.mergeSlots cards) :
    t'.shapeAt (cardSlot c.home key).target = t.shapeAt (cardSlot c.home key).target := by
  refine h.same _ (fun s hs => ⟨fun heq => hkey ?_, (temporary_ne_cardSlot htag s key).symm⟩)
    fun _ => by simp [cardSlot, Slot.target]
  rw [Slot.target_inj heq]
  exact hs

/-- Where nothing stood under a temporary name, nothing does again. -/
theorem temporary_same (h : c.FilesIn cards t t') (htag : IsTag c.tag) {key : String}
    (hnone : t.shapeAt ((cardSlot c.home key).temporary c.tag) = none) :
    t'.shapeAt ((cardSlot c.home key).temporary c.tag) = none := by
  by_cases hslot : ∃ s ∈ c.mergeSlots cards,
      (cardSlot c.home key).temporary c.tag = s.temporary c.tag
  · obtain ⟨s, hs, heq⟩ := hslot
    rw [heq]
    exact h.temporary s hs
  · rw [h.same _ (fun s hs => ⟨temporary_ne_of_mem_mergeSlots htag _ hs,
      fun heq => hslot ⟨s, hs, heq⟩⟩) fun _ => by simp [cardSlot, Slot.temporary]]
    exact hnone

/-- What is not among the files of more cards is the same. -/
theorem same_of_subset (h : c.FilesIn as t t') (hsub : ∀ card ∈ as, card ∈ bs) {loc : Location}
    (hout : ∀ s ∈ c.mergeSlots bs, loc ≠ s.target ∧ loc ≠ s.temporary c.tag)
    (hfolder : bs ≠ [] → loc ≠ cardsAt c.home) : t'.shapeAt loc = t.shapeAt loc := by
  refine h.same loc (fun s hs => hout s (mergeSlots_subset hsub hs)) fun hne => hfolder ?_
  obtain ⟨card, hcard⟩ := List.exists_mem_of_ne_nil as hne
  exact List.ne_nil_of_mem (hsub card hcard)

/-- Files of some cards, and then files of some more. -/
theorem trans (ha : c.FilesIn as t t₁) (hb : c.FilesIn bs t₁ t₂) (htag : IsTag c.tag)
    (hagree : ∀ a ∈ as, ∀ b ∈ bs, a.key = b.key → a = b)
    (hcards : ∀ card, card ∈ cards ↔ card ∈ as ∨ card ∈ bs) : c.FilesIn cards t t₂ := by
  refine ⟨fun card hcard => ?_, fun s hs => ?_, fun hwhere => hb.folder ?_, fun loc hout hne => ?_⟩
  · by_cases hlater : card ∈ bs
    · exact hb.stands card hlater
    · have hmem : card ∈ as := ((hcards card).mp hcard).resolve_right hlater
      rw [hb.target_same htag]
      · exact ha.stands card hmem
      intro hslot
      rcases mem_mergeSlots.mp hslot with ⟨b, hb, heq⟩ | heq
      · exact hlater (hagree card hmem b hb (cardSlot_inj heq) ▸ hb)
      · exact cardSlot_ne_sharedSlot _ _ heq
  · rcases mem_mergeSlots.mp hs with ⟨card, hcard, rfl⟩ | rfl
    · rcases (hcards card).mp hcard with hmem | hmem
      · exact hb.temporary_same htag
          (ha.temporary _ (mem_mergeSlots.mpr (Or.inl ⟨card, hmem, rfl⟩)))
      · exact hb.temporary _ (mem_mergeSlots.mpr (Or.inl ⟨card, hmem, rfl⟩))
    · exact hb.temporary _ (mem_mergeSlots.mpr (Or.inr rfl))
  · by_cases hnil : bs = []
    · refine Or.inr (ha.folder (hwhere.imp_left fun hne => ?_))
      obtain ⟨card, hcard⟩ := List.exists_mem_of_ne_nil cards hne
      refine List.ne_nil_of_mem (((hcards card).mp hcard).resolve_right ?_)
      rw [hnil]
      exact List.not_mem_nil
    · exact Or.inl hnil
  · rw [hb.same_of_subset (fun card hmem => (hcards card).mpr (Or.inr hmem)) hout hne,
      ha.same_of_subset (fun card hmem => (hcards card).mpr (Or.inl hmem)) hout hne]

/-- The files of the same cards in the same tree: all is the same but for the rows. -/
theorem shapeAt_eq (h : c.FilesIn as t t₁) (h' : c.FilesIn bs t t₂)
    (hsame : ∀ card, card ∈ as ↔ card ∈ bs) {loc : Location}
    (hloc : loc ≠ (sharedSlot c.home cardtreeName).target) : t₁.shapeAt loc = t₂.shapeAt loc := by
  by_cases htarget : ∃ card ∈ as, loc = (cardSlot c.home card.key).target
  · obtain ⟨card, hcard, rfl⟩ := htarget
    rw [(h.stands card hcard).2, (h'.stands card ((hsame card).mp hcard)).2]
  by_cases htemporary : ∃ s ∈ c.mergeSlots as, loc = s.temporary c.tag
  · obtain ⟨s, hs, rfl⟩ := htemporary
    rw [h.temporary s hs, h'.temporary s (mergeSlots_subset (fun card => (hsame card).mp) hs)]
  have hout : ∀ s ∈ c.mergeSlots as, loc ≠ s.target ∧ loc ≠ s.temporary c.tag := by
    refine fun s hs => ⟨fun heq => ?_, fun heq => htemporary ⟨s, hs, heq⟩⟩
    rcases mem_mergeSlots.mp hs with ⟨card, hcard, rfl⟩ | rfl
    · exact htarget ⟨card, hcard, heq⟩
    · exact hloc heq
  by_cases hfolder : as ≠ [] ∧ loc = cardsAt c.home
  · obtain ⟨hne, rfl⟩ := hfolder
    obtain ⟨card, hcard⟩ := List.exists_mem_of_ne_nil as hne
    rw [h.folder (Or.inl hne), h'.folder (Or.inl (List.ne_nil_of_mem ((hsame card).mp hcard)))]
  · have hne : as ≠ [] → loc ≠ cardsAt c.home := fun hne heq => hfolder ⟨hne, heq⟩
    rw [h.same loc hout hne, h'.same_of_subset (fun card => (hsame card).mpr) hout hne]

end FilesIn

/-! ## Cards that are known -/

section Store

variable {found found' : List (String × CardTree)} {keys keys' : List String}

/-- The trees that are found do not depend on what else is looked for. -/
theorem asFound_congr (hreg : c.project.Regular home cards t)
    (hfound : c.project.findCards keys t = .ok found)
    (hfound' : c.project.findCards keys' t = .ok found') (hknown : Known cards trees)
    (hkeys : ∀ tree ∈ trees, tree.card.key ∈ keys ∧ tree.card.key ∈ keys') :
    asFound found trees = asFound found' trees := by
  refine List.map_congr_left fun tree htree => ?_
  obtain ⟨card, hcard, hkey⟩ := hknown tree htree
  obtain ⟨tree', -, hlookup⟩ := hreg.exists_lookup hcard
  obtain ⟨hmem, hmem'⟩ := hkeys tree htree
  rw [← hkey] at hmem hmem' ⊢
  rw [hlookup keys found hfound hmem, hlookup keys' found' hfound' hmem']

theorem mem_takenIn (hreg : c.project.Regular home cards t)
    (hfound : c.project.findCards (trees.map fun tree => tree.card.key) t = .ok found)
    (hknown : Known cards trees) {card : Card} :
    card ∈ takenIn found trees ↔
      ∃ root ∈ cards, root.key ∈ trees.map (fun tree => tree.card.key) ∧ card ∈ cards ∧
        root.path.IsBelow card.path := by
  have hlisting := mem_listing_asFound hreg hfound hknown
  have hmem : ∀ other ∈ takenIn found trees, other ∈ cards := fun other hother => by
    obtain ⟨-, -, -, hmem, -⟩ := (hlisting other).mp (mem_of_mem_firstOfEachKey hother)
    exact hmem
  rw [← hlisting]
  refine ⟨mem_of_mem_firstOfEachKey, fun hcard => ?_⟩
  obtain ⟨other, hother, hkey⟩ := exists_mem_firstOfEachKey hcard
  obtain ⟨-, -, -, hcard', -⟩ := (hlisting card).mp hcard
  rw [← hreg.eq_of_key (hmem other hother) hcard' hkey]
  exact hother

theorem mem_cards_of_mem_takenIn (hreg : c.project.Regular home cards t)
    (hfound : c.project.findCards (trees.map fun tree => tree.card.key) t = .ok found)
    (hknown : Known cards trees) {card : Card} (h : card ∈ takenIn found trees) : card ∈ cards := by
  obtain ⟨-, -, -, hcard, -⟩ := (mem_takenIn hreg hfound hknown).mp h
  exact hcard

theorem mergeKeys_takenIn (hreg : c.project.Regular home cards t)
    (hfound : c.project.findCards (trees.map fun tree => tree.card.key) t = .ok found)
    (hknown : Known cards trees) : MergeKeys (takenIn found trees) := by
  have hmem : ∀ card ∈ takenIn found trees, card ∈ cards :=
    fun _ => mem_cards_of_mem_takenIn hreg hfound hknown
  exact ⟨fun card hcard => (hreg.legalName (hmem card hcard)).no_slash,
    fun card hcard => hreg.oneLine card (hmem card hcard), nodup_firstOfEachKey _⟩

end Store

/-! ## Batches -/

/-- What a batch of cards that are known does: their files are written, their rows come behind those
that were read, and the store is left alone. -/
structure TookIn (c : Corpus) (cards : List Card) (rows : List String) (t t' : FileTree) :
    Prop where
  files : c.FilesIn cards t t'
  read : readRows t c.cardtreePath = .ok rows
  cardtree : t'.shapeAt (sharedSlot c.home cardtreeName).target =
    some (.file (bytesOf (rowsText (mergeRows rows (cards.map Card.key)))))
  readAfter : readRows t' c.cardtreePath = .ok (mergeRows rows (cards.map Card.key))
  isThere : c.isThere t' = .ok true
  store : ∀ keys, c.project.findCards keys t' = c.project.findCards keys t

theorem tookIn_of_addCards (htag : IsTag c.tag) (hreg : c.project.Regular home cards t)
    (hknown : Known cards trees) (hthere : c.isThere w.tree = .ok true)
    (hstore : ∀ keys, c.project.findCards keys w.tree = c.project.findCards keys t)
    (h : c.addCards trees w = .ok paths w') :
    ∃ found rows, c.project.findCards (trees.map fun tree => tree.card.key) t = .ok found ∧
      paths = (takenIn found trees).map (fun card => c.cardPath card.key) ++ [c.cardtreePath] ∧
      c.TookIn (takenIn found trees) rows w.tree w'.tree := by
  obtain ⟨found, -, ⟨-, hfound, -⟩, -⟩ := steps_of_addCards hthere h
  have hfound' := (hstore _).symm.trans hfound
  have hkeys := mergeKeys_takenIn hreg hfound' hknown
  obtain ⟨rows, t₁, hmerged, hpaths⟩ :=
    merged_of_addCards hthere (Merge.scope_add hfound) hkeys.noSlash h
  obtain ⟨hprogram, -⟩ := cardtree_of_isThere hthere
  have hsettled : c.project.Settled w.tree := Or.inr ⟨_, base_of_folder hprogram⟩
  have hplaced := hmerged.placed htag hkeys
  exact ⟨found, rows, hfound', hpaths, {
    files := .of_merged hmerged htag hkeys hprogram
    read := hmerged.readRows_before htag hkeys hsettled
    cardtree := hmerged.cardtree_stands htag hkeys
    readAfter := hmerged.readRows_after htag hkeys
    isThere := isThere_of_placed hplaced (cardtree_mem_mergeBatch c _ rows)
    store := hmerged.findCards_eq htag hkeys hsettled }⟩

/-- Batches after each other end where one batch of all their cards does. -/
theorem TookIn.eq_of_trans {rows₁ rows' : List String} (htag : IsTag c.tag)
    (ha : c.TookIn as rows t t₁) (hb : c.TookIn bs rows₁ t₁ t₂) (hall : c.TookIn cards rows' t t')
    (hagree : ∀ a ∈ as, ∀ b ∈ bs, a.key = b.key → a = b)
    (hcards : ∀ card, card ∈ cards ↔ card ∈ as ∨ card ∈ bs)
    (hrows : mergeRows rows (cards.map Card.key) =
      mergeRows (mergeRows rows (as.map Card.key)) (bs.map Card.key)) : t' = t₂ := by
  cases ha.read.symm.trans hall.read
  cases ha.readAfter.symm.trans hb.read
  refine ext_shapeAt fun loc => ?_
  by_cases hloc : loc = (sharedSlot c.home cardtreeName).target
  · rw [hloc, hall.cardtree, hb.cardtree, hrows]
  · exact hall.files.shapeAt_eq (ha.files.trans hb.files htag hagree hcards) (fun _ => Iff.rfl) hloc

/-- All at once or one after another. -/
theorem eq_of_addCards_append (htag : IsTag c.tag) (hreg : c.project.Regular home cards t)
    (hthere : c.isThere t = .ok true) (hknown : Known cards (xs ++ ys))
    (hall : Does (c.addCards (xs ++ ys)) t t') (hxs : Does (c.addCards xs) t t₁)
    (hys : Does (c.addCards ys) t₁ t₂) : t' = t₂ := by
  have hknownX : Known cards xs := fun tree htree => hknown tree (List.mem_append_left _ htree)
  have hknownY : Known cards ys := fun tree htree => hknown tree (List.mem_append_right _ htree)
  obtain ⟨w, w', paths, rfl, hadd, rfl⟩ := hall
  obtain ⟨w₁, w₁', paths₁, hw₁, hadd₁, rfl⟩ := hxs
  obtain ⟨w₂, w₂', paths₂, hw₂, hadd₂, rfl⟩ := hys
  obtain ⟨found, rows, hfound, -, htook⟩ :=
    tookIn_of_addCards htag hreg hknown hthere (fun _ => rfl) hadd
  obtain ⟨foundX, rowsX, hfoundX, -, htookX⟩ :=
    tookIn_of_addCards htag hreg hknownX (hw₁ ▸ hthere) (fun _ => by rw [hw₁]) hadd₁
  have hstore : ∀ keys, c.project.findCards keys w₂.tree = c.project.findCards keys w.tree :=
    fun keys => by rw [hw₂, htookX.store, hw₁]
  obtain ⟨foundY, rowsY, hfoundY, -, htookY⟩ :=
    tookIn_of_addCards htag hreg hknownY (hw₂ ▸ htookX.isThere) hstore hadd₂
  rw [hw₁] at htookX
  rw [hw₂] at htookY
  refine htookX.eq_of_trans htag htookY htook (fun a ha b hb hkey => ?_) (fun card => ?_) ?_
  · exact hreg.eq_of_key (mem_cards_of_mem_takenIn hreg hfoundX hknownX ha)
      (mem_cards_of_mem_takenIn hreg hfoundY hknownY hb) hkey
  · rw [mem_takenIn hreg hfound hknown, mem_takenIn hreg hfoundX hknownX,
      mem_takenIn hreg hfoundY hknownY, List.map_append]
    simp only [List.mem_append, or_and_right, and_or_left, exists_or]
  · have hfoundAs : asFound found (xs ++ ys) = asFound foundX xs ++ asFound foundY ys := by
      rw [← asFound_congr hreg hfound hfoundX hknownX fun tree htree =>
          ⟨List.mem_map_of_mem (List.mem_append_left _ htree), List.mem_map_of_mem htree⟩,
        ← asFound_congr hreg hfound hfoundY hknownY fun tree htree =>
          ⟨List.mem_map_of_mem (List.mem_append_right _ htree), List.mem_map_of_mem htree⟩]
      exact List.map_append
    unfold takenIn
    rw [mergeRows_firstOfEachKey, mergeRows_firstOfEachKey, mergeRows_firstOfEachKey, hfoundAs,
      CardTree.listing_append, List.map_append, mergeRows_append]

/-- The order of the cards is that of the rows that are new, and nothing more. -/
theorem perm_of_addCards {w₁ w₁' w₂ w₂' : Workspace} {paths' : List Path} (htag : IsTag c.tag)
    (hreg : c.project.Regular home cards t) (hthere : c.isThere t = .ok true)
    (hknown : Known cards xs) (hperm : xs.Perm ys) (hw₁ : w₁.tree = t)
    (h₁ : c.addCards xs w₁ = .ok paths w₁') (hw₂ : w₂.tree = t)
    (h₂ : c.addCards ys w₂ = .ok paths' w₂') :
    c.SameButOrder paths paths' w₁'.tree w₂'.tree := by
  have hknown' : Known cards ys := fun tree htree => hknown tree (hperm.mem_iff.mpr htree)
  obtain ⟨found, rows, hfound, rfl, htook⟩ :=
    tookIn_of_addCards htag hreg hknown (hw₁ ▸ hthere) (fun _ => by rw [hw₁]) h₁
  obtain ⟨found', rows', hfound', rfl, htook'⟩ :=
    tookIn_of_addCards htag hreg hknown' (hw₂ ▸ hthere) (fun _ => by rw [hw₂]) h₂
  rw [hw₁] at htook
  rw [hw₂] at htook'
  cases htook.read.symm.trans htook'.read
  have hmem : ∀ card, card ∈ takenIn found xs ↔ card ∈ takenIn found' ys := by
    intro card
    rw [mem_takenIn hreg hfound hknown, mem_takenIn hreg hfound' hknown']
    simp only [(hperm.map fun tree : CardTree => tree.card.key).mem_iff]
  have hkeys : ∀ found trees, ((takenIn found trees).map Card.key).Nodup :=
    fun _ _ => nodup_firstOfEachKey _
  have hcards : (takenIn found xs).Perm (takenIn found' ys) :=
    (List.perm_ext_iff_of_nodup ((hkeys _ _).of_map _) ((hkeys _ _).of_map _)).mpr hmem
  have hrows : (mergeRows rows ((takenIn found xs).map Card.key)).Perm
      (mergeRows rows ((takenIn found' ys).map Card.key)) := by
    rw [mergeRows_eq_filter (hkeys _ _), mergeRows_eq_filter (hkeys _ _)]
    exact (((hcards.map _).map _).filter _).append_left _
  exact ⟨(hcards.map _).append_right _, fun loc => htook.files.shapeAt_eq htook'.files hmem,
    _, _, htook.readAfter, htook'.readAfter, hrows⟩

/-- Cards of a regular store are taken in in batches of any size and in any order. -/
theorem batches_of_regular (htag : IsTag c.tag) (hreg : c.project.Regular home cards t)
    (hthere : c.isThere t = .ok true) : c.Batches cards t where
  append _ _ hknown _ _ _ := eq_of_addCards_append htag hreg hthere hknown
  perm _ _ hknown hperm _ _ _ _ _ _ := perm_of_addCards htag hreg hthere hknown hperm

/-! ## A batch of three -/

def handFirst : List CardTree := [.node ⟨"a", Path.ofString "/p/cardroot/a", none⟩ []]

/-- The card below the first and the card beside it. -/
def handRest : List CardTree :=
  [.node ⟨"b", Path.ofString "/p/cardroot/a/c/b", none⟩ [],
    .node ⟨"aa", Path.ofString "/p/cardroot/aa", none⟩ []]

/-- The first and then the others, or all of them the other way round. -/
theorem batches_by_hand : ∃ cards t₁ w₁ w₁' w₂ w₂' paths paths',
    Known cards (handFirst ++ handRest) ∧
      Does (smallCorpus.addCards handFirst) handTree t₁ ∧
      w₁.tree = handTree ∧ smallCorpus.addCards (handFirst ++ handRest) w₁ = .ok paths w₁' ∧
      Does (smallCorpus.addCards handRest) t₁ w₁'.tree ∧
      w₂.tree = handTree ∧ smallCorpus.addCards (handRest ++ handFirst) w₂ = .ok paths' w₂' ∧
      smallCorpus.SameButOrder paths paths' w₁'.tree w₂'.tree := by
  obtain ⟨cards, hcards, -, hcardKeys⟩ := exists_cards_of_smallListing (t := handTree)
    (show _ = some [("a", smallCorpus.project.cardRoot.below ["a"]),
      ("b", smallCorpus.project.cardRoot.below ["a", "c", "b"]),
      ("aa", smallCorpus.project.cardRoot.below ["aa"])] by decide +kernel)
  have hreg : smallCorpus.project.Regular ["p"] cards handTree :=
    Project.regular_of_isRegular (by decide +kernel) hcards
  have hknown : Known cards (handFirst ++ handRest) := by
    have hkeys : ∀ tree ∈ handFirst ++ handRest, tree.card.key ∈ cards.map Card.key := by
      rw [hcardKeys]
      simp [handFirst, handRest, CardTree.card]
    exact fun tree htree => List.mem_map.mp (hkeys tree htree)
  have hsorted : Project.wanted ["a", "b", "aa"] = ["a", "aa", "b"] ∧
      Project.wanted ["b", "aa", "a"] = ["a", "aa", "b"] ∧
      Project.wanted ["b", "aa"] = ["aa", "b"] :=
    ⟨Project.wanted_eq_of_perm (by decide) (by decide),
      Project.wanted_eq_of_perm (by decide) (by decide),
      Project.wanted_eq_of_perm (by decide) (by decide)⟩
  have hfirst : Does (smallCorpus.addCards handFirst) handTree _ :=
    does_treeAfter (by decide +kernel)
  have hrest : Does (smallCorpus.addCards handRest)
      (treeAfter (smallCorpus.addCards handFirst) handTree) _ := does_treeAfter (by
    unfold handRest addCards Project.findCards
    simp only [List.map_cons, List.map_nil, CardTree.card, hsorted]
    decide +kernel)
  have hall : Does (smallCorpus.addCards (handFirst ++ handRest)) handTree _ := does_treeAfter (by
    unfold handFirst handRest addCards Project.findCards
    simp only [List.cons_append, List.nil_append, List.map_cons, List.map_nil, CardTree.card,
      hsorted]
    decide +kernel)
  have hturned : Does (smallCorpus.addCards (handRest ++ handFirst)) handTree _ :=
    does_treeAfter (by
    unfold handFirst handRest addCards Project.findCards
    simp only [List.cons_append, List.nil_append, List.map_cons, List.map_nil, CardTree.card,
      hsorted]
    decide +kernel)
  have hbatches : smallCorpus.Batches cards handTree :=
    batches_of_regular (by decide) hreg (by decide +kernel)
  have hsame := hbatches.append handFirst handRest hknown hall hfirst hrest
  obtain ⟨w₁, w₁', paths, hw₁, h₁, hw₁'⟩ := hall
  obtain ⟨w₂, w₂', paths', hw₂, h₂, -⟩ := hturned
  refine ⟨cards, _, w₁, w₁', w₂, w₂', paths, paths', hknown, hfirst, hw₁, h₁, ?_, hw₂, h₂,
    hbatches.perm _ _ hknown List.perm_append_comm hw₁ h₁ hw₂ h₂⟩
  rw [hw₁', hsame]
  exact hrest

end CardLogic.Corpus
