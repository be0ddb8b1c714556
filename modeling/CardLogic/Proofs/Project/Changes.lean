import CardLogic.Proofs.Project.Lookup

/-!
What a change to the store does to its cards.

Three changes are told apart: folders come, fields are written anew, and the folder of a
card goes.  Each is a condition on the shapes before and after, and each says which cards
the store then has, if it is regular before and after.
-/

namespace CardLogic.Project

/-- Nothing is different but what lies below the folder of all cards. -/
def OnlyStore (home : Location) (t t' : FileTree) : Prop :=
  ∀ loc, ¬ home ++ [Card.rootFolder] <+: loc → t'.shapeAt loc = t.shapeAt loc

/-- Entries came where nothing was: at and below the folders of some cards of the store
there is now, and folders anywhere. -/
structure Came (p : Project) (home : Location) (cards' : List Card) (keys : List String)
    (t t' : FileTree) : Prop where
  onlyStore : OnlyStore home t t'
  came : ∀ loc, cardShapes t' home loc ≠ cardShapes t home loc →
    cardShapes t home loc = none ∧
      (cardShapes t' home loc = some .folder ∨
        ∃ card ∈ cards', card.key ∈ keys ∧ card.path.IsBelow (p.cardRoot.below loc))

/-- Files of fields of a card and of cards below it have another content. -/
structure Rewritten (p : Project) (home : Location) (cards : List Card) (key : String)
    (t t' : FileTree) : Prop where
  onlyStore : OnlyStore home t t'
  rewritten : ∀ loc, cardShapes t' home loc ≠ cardShapes t home loc →
    ∃ l, loc = l ++ [metadataName] ∧ HoldsFields (cardShapes t home) l ∧
      HoldsFields (cardShapes t' home) l ∧
      ∃ card ∈ cards, card.key = key ∧ card.path.IsBelow (p.cardRoot.below l)

/-- The folder of a card is gone, with everything below it. -/
def Gone (p : Project) (home : Location) (cards : List Card) (key : String)
    (t t' : FileTree) : Prop :=
  ∃ card ∈ cards, card.key = key ∧ ∃ loc, card.path = p.cardRoot.below loc ∧
    t' = t.remove (home ++ Card.rootFolder :: loc)

variable {p : Project} {home : Location} {cards cards' : List Card} {t t' : FileTree}
  {key : String} {keys : List String}

/-- A card is the same where the files of fields on its way are. -/
theorem CardAt.congr {root : Path} {shapes shapes' : Location → Option Shape} {loc : Location}
    {card : Card} (h : CardAt root shapes loc card)
    (hsame : ∀ l, l <+: loc → HoldsFields shapes l →
      shapes' (l ++ [metadataName]) = shapes (l ++ [metadataName])) :
    CardAt root shapes' loc card := by
  obtain ⟨hreached, hkey, hpath, hmeta⟩ := h
  refine ⟨hreached.congr fun l hl hfields => ?_, hkey, hpath, ?_⟩
  · obtain ⟨content, hcontent⟩ := hfields
    exact ⟨content, (hsame l hl ⟨content, hcontent⟩).trans hcontent⟩
  · rw [hsame loc List.prefix_rfl hreached.holdsFields]
    exact hmeta

/-! ## Folders that come -/

/-- No card goes when folders come. -/
theorem Came.mem_of_mem (h : Came p home cards' keys t t') (hreg : Regular p home cards t)
    (hreg' : Regular p home cards' t') {card : Card} (hcard : card ∈ cards) : card ∈ cards' := by
  obtain ⟨loc, hloc⟩ := (mem_cards hreg.base hreg.readCards).mp hcard
  refine (mem_cards hreg'.base hreg'.readCards).mpr ⟨loc, hloc.congr fun l _ hfields => ?_⟩
  obtain ⟨content, hcontent⟩ := hfields
  by_contra hne
  have hnone := (h.came _ hne).1
  rw [hcontent] at hnone
  exact absurd hnone (by simp)

/-- A card that came lies at or below one of the cards whose folders came. -/
theorem Came.mem_or_isBelow (h : Came p home cards' keys t t') (hreg : Regular p home cards t)
    (hreg' : Regular p home cards' t') {card : Card} (hcard : card ∈ cards') :
    card ∈ cards ∨ ∃ root ∈ cards', root.key ∈ keys ∧ root.path.IsBelow card.path := by
  by_cases hroot : ∃ root ∈ cards', root.key ∈ keys ∧ root.path.IsBelow card.path
  · exact Or.inr hroot
  · left
    obtain ⟨loc, hloc⟩ := (mem_cards hreg'.base hreg'.readCards).mp hcard
    refine (mem_cards hreg.base hreg.readCards).mpr ⟨loc, hloc.congr fun l hl hfields => ?_⟩
    obtain ⟨content, hcontent⟩ := hfields
    by_contra hne
    obtain ⟨-, hfolder | ⟨root, hmem, hkey, hbelow⟩⟩ := h.came _ (Ne.symm hne)
    · rw [hcontent] at hfolder
      exact absurd hfolder (by simp)
    · obtain ⟨loc', hloc'⟩ := (mem_cards hreg'.base hreg'.readCards).mp hmem
      rw [hloc'.path, Path.isBelow_below] at hbelow
      rcases List.prefix_concat_iff.mp hbelow with heq | hpre
      · -- A file of fields is not the folder of a card.
        have hfolder := hloc'.reached.shapeAt_eq
        rw [heq, hcontent] at hfolder
        exact absurd hfolder (by simp)
      · refine hroot ⟨root, hmem, hkey, ?_⟩
        rw [hloc'.path, hloc.path, Path.isBelow_below]
        exact hpre.trans hl

/-! ## Fields that are written anew -/

theorem Rewritten.holdsFields_iff (h : Rewritten p home cards key t t') (l : Location) :
    HoldsFields (cardShapes t' home) l ↔ HoldsFields (cardShapes t home) l := by
  by_cases hsame :
      cardShapes t' home (l ++ [metadataName]) = cardShapes t home (l ++ [metadataName])
  · unfold HoldsFields
    rw [hsame]
  · obtain ⟨l', hl', hold, hnew, -⟩ := h.rewritten _ hsame
    have heq : l = l' := (List.append_inj' hl' rfl).1
    subst heq
    exact ⟨fun _ => hold, fun _ => hnew⟩

/-- The store has a card of each key it had, in the same folder. -/
theorem Rewritten.exists_after (h : Rewritten p home cards key t t') (hreg : Regular p home cards t)
    (hreg' : Regular p home cards' t') {card : Card} (hcard : card ∈ cards) :
    ∃ card' ∈ cards', card'.key = card.key ∧ card'.path = card.path := by
  obtain ⟨loc, hloc⟩ := (mem_cards hreg.base hreg.readCards).mp hcard
  have hreached : Reached (cardShapes t' home) loc :=
    hloc.reached.congr fun l _ hfields => (h.holdsFields_iff l).mpr hfields
  obtain ⟨card', hcard', hloc'⟩ := hreg'.card_of_reached hreached
  exact ⟨card', hcard', hloc'.key.trans hloc.key.symm, hloc'.path.trans hloc.path.symm⟩

/-- Each card of the store was there under its key, and is the same unless it lies at or
below the card that was rewritten. -/
theorem Rewritten.exists_before (h : Rewritten p home cards key t t')
    (hreg : Regular p home cards t) (hreg' : Regular p home cards' t') {card : Card}
    (hcard : card ∈ cards') :
    ∃ old ∈ cards, old.key = card.key ∧ old.path = card.path ∧
      (old = card ∨ ∃ root ∈ cards, root.key = key ∧ root.path.IsBelow card.path) := by
  obtain ⟨loc, hloc⟩ := (mem_cards hreg'.base hreg'.readCards).mp hcard
  have hreached : Reached (cardShapes t home) loc :=
    hloc.reached.congr fun l _ hfields => (h.holdsFields_iff l).mp hfields
  obtain ⟨old, hold, hloc'⟩ := hreg.card_of_reached hreached
  refine ⟨old, hold, hloc'.key.trans hloc.key.symm, hloc'.path.trans hloc.path.symm, ?_⟩
  by_cases hsame :
    cardShapes t' home (loc ++ [metadataName]) = cardShapes t home (loc ++ [metadataName])
  · left
    refine hreg.eq_of_key hold ?_ (hloc'.key.trans hloc.key.symm)
    refine (mem_cards hreg.base hreg.readCards).mpr ⟨loc, hreached, hloc.key, hloc.path, ?_⟩
    rw [← hsame]
    exact hloc.metadata
  · right
    obtain ⟨l, hl, -, -, root, hroot, hkey, hbelow⟩ := h.rewritten _ hsame
    have heq : loc = l := (List.append_inj' hl rfl).1
    subst heq
    exact ⟨root, hroot, hkey, by rw [hloc.path]; exact hbelow⟩

/-! ## A folder that goes -/

theorem Gone.shapeAt (h : Gone p home cards key t t') (hreg : Regular p home cards t) :
    ∃ card ∈ cards, card.key = key ∧ ∃ loc, card.path = p.cardRoot.below loc ∧
      ∀ l, t'.shapeAt l =
        if home ++ Card.rootFolder :: loc <+: l then none else t.shapeAt l := by
  obtain ⟨card, hcard, hkey, loc, hpath, rfl⟩ := h
  refine ⟨card, hcard, hkey, loc, hpath, ?_⟩
  obtain ⟨loc', hloc'⟩ := (mem_cards hreg.base hreg.readCards).mp hcard
  have heq : loc' = loc := Path.below_inj (hloc'.path.symm.trans hpath)
  subst heq
  obtain ⟨above, n, hn⟩ : ∃ above n, Card.rootFolder :: loc' = above ++ [n] := by
    rcases List.eq_nil_or_concat (Card.rootFolder :: loc') with hnil | ⟨above, n, hn⟩
    · exact absurd hnil (by simp)
    · exact ⟨above, n, by rw [hn, List.concat_eq_append]⟩
  have hfolder : t.shapeAt (home ++ above ++ [n]) = some .folder := by
    rw [List.append_assoc, ← hn]
    exact hloc'.reached.shapeAt_eq
  have habove : t.shapeAt (home ++ above) = some .folder := by
    refine FileTree.shapeAt_above (List.cons_ne_nil n []) ?_
    rw [hfolder]
    simp
  intro l
  rw [hn, ← List.append_assoc]
  exact FileTree.shapeAt_remove habove l

/-- The cards that stay are those that do not lie at or below the card that goes. -/
theorem Gone.mem_iff (h : Gone p home cards key t t') (hreg : Regular p home cards t)
    (hreg' : Regular p home cards' t') :
    ∃ root ∈ cards, root.key = key ∧
      ∀ card, card ∈ cards' ↔ card ∈ cards ∧ ¬ root.path.IsBelow card.path := by
  obtain ⟨root, hroot, hkey, loc, hpath, hshape⟩ := h.shapeAt hreg
  refine ⟨root, hroot, hkey, fun card => ?_⟩
  have hstore : ∀ l, cardShapes t' home l = if loc <+: l then none else cardShapes t home l := by
    intro l
    unfold cardShapes
    rw [hshape]
    have hiff : home ++ Card.rootFolder :: loc <+: home ++ Card.rootFolder :: l ↔ loc <+: l := by
      rw [List.prefix_append_right_inj, List.cons_prefix_cons]
      simp
    by_cases hl : loc <+: l
    · rw [if_pos hl, if_pos (hiff.mpr hl)]
    · rw [if_neg hl, if_neg fun hpre => hl (hiff.mp hpre)]
  rw [mem_cards hreg'.base hreg'.readCards, mem_cards hreg.base hreg.readCards]
  constructor
  · intro hbelow
    obtain ⟨l, hl⟩ := hbelow
    have hnot : ¬ loc <+: l := by
      intro hpre
      obtain ⟨content, hcontent⟩ := hl.reached.holdsFields
      rw [hstore, if_pos (hpre.trans (List.prefix_append _ _))] at hcontent
      exact absurd hcontent (by simp)
    refine ⟨⟨l, hl.congr fun m _ hfields => ?_⟩, ?_⟩
    · obtain ⟨content, hcontent⟩ := hfields
      rw [hstore] at hcontent ⊢
      split at hcontent
      · exact absurd hcontent (by simp)
      · next hm => rw [if_neg hm]
    · rw [hpath, hl.path, Path.isBelow_below]
      exact hnot
  · intro hbelow
    obtain ⟨⟨l, hl⟩, hnot⟩ := hbelow
    rw [hpath, hl.path, Path.isBelow_below] at hnot
    refine ⟨l, hl.congr fun m hm hfields => ?_⟩
    rw [hstore, if_neg]
    intro hpre
    rcases List.prefix_concat_iff.mp hpre with heq | hpre
    · -- A file of fields is not the folder of a card.
      obtain ⟨content, hcontent⟩ := hfields
      obtain ⟨loc', hloc'⟩ := (mem_cards hreg.base hreg.readCards).mp hroot
      have hsame : loc' = loc := Path.below_inj (hloc'.path.symm.trans hpath)
      have hfolder := hloc'.reached.shapeAt_eq
      rw [hsame, heq, hcontent] at hfolder
      exact absurd hfolder (by simp)
    · exact hnot (hpre.trans hm)

end CardLogic.Project
