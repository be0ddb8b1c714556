import CardLogic.Proofs.Corpus.Calls
import CardLogic.Proofs.Program.Confined

/-!
Which files the upkeep of a corpus can touch.

When cards come, change or go, the file of rows is written and the files of these cards are
written or removed, and that is all, also if the upkeep fails half way; of a file whose text cannot
be encoded, the empty temporary file beside it stays.  Where a card's file is
depends on the card's key: the path of the file is read from a text that has the key in it.
A key without slashes stands for one segment, and the file lies in the folder of the cards'
files (`OnlyOfCards.inside`).  A key that a caller gives may have slashes, and then its file can
be anywhere.
-/

namespace CardLogic.Corpus

open FileTree ProgramFile

variable {c : Corpus} {P : String → Prop} {key : String} {p : Path} {t t' : FileTree}
  {w : Workspace} {cards : List Card} {others : List ProgramFile} {loc : Location}

/-! ## Places -/

/-- The path of the file of rows, or that of the file of a card with a key of some kind. -/
def OfCards (c : Corpus) (P : String → Prop) (p : Path) : Prop :=
  p = c.cardtreePath ∨ ∃ key, P key ∧ p = c.cardPath key

/-- The path that a file has while it is written. -/
def temporaryOf (c : Corpus) (p : Path) : Path := p.withName (temporaryName c.tag p.name)

/-- Between two trees no files are different but those for cards with keys of some kind, and the
temporary files beside them. -/
def OnlyOfCards (c : Corpus) (P : String → Prop) : FileTree → FileTree → Prop :=
  Confined (fun loc => ∃ p, c.OfCards P p ∧ loc = p.location)
    fun loc => ∃ p, c.OfCards P p ∧ loc = (c.temporaryOf p).location

/-- A place of the file of rows, or directly in the folder of the cards' files. -/
def Inside (c : Corpus) (loc : Location) : Prop :=
  loc = c.cardtreePath.location ∨ ∃ n, loc = c.cardsFolder.location ++ [n]

/-- The path of a card's file has a last segment that is the name of such a file, whatever the
key. -/
theorem exists_stem (c : Corpus) (key : String) :
    ∃ stem, c.cardPath key = (c.cardPath key).parent.child (cardName stem) := by
  obtain ⟨before, last, hpieces⟩ :=
    Text.exists_pieces_append (d := '/') (l := ".lp".toList) (by decide) key.toList
  have hname : String.ofList (last ++ ".lp".toList) = cardName (String.ofList last) := by
    rw [String.ofList_append, String.ofList_toList]
    rfl
  have hsegments : (Path.ofString (cardName key)).segments =
      ((before.map String.ofList).filter fun s => s ≠ "" ∧ s ≠ ".") ++
        [cardName (String.ofList last)] := by
    unfold Path.ofString
    dsimp only
    rw [toList_cardName, hpieces, List.map_append, List.filter_append, List.map_singleton, hname,
      List.filter_cons_of_pos, List.filter_nil]
    simp [cardName_ne_of_short]
  refine ⟨String.ofList last, ?_⟩
  unfold cardPath Path.join Path.append
  by_cases hanchor : (Path.ofString (cardName key)).anchor = .none
  · rw [if_pos hanchor, hsegments, ← List.append_assoc]
    exact Path.eq_child_of_segments rfl
  · rw [if_neg hanchor]
    exact Path.eq_child_of_segments hsegments

theorem exists_leads (c : Corpus) (card : Card) : ∃ s, Leads (c.cardFile card) s := by
  obtain ⟨stem, hpath⟩ := c.exists_stem card.key
  exact ⟨⟨_, cardName stem⟩, cardName_ne_of_short (by decide) stem, hpath, rfl⟩

/-- Files of cards whose keys have no slashes are in one folder, and so are their temporary
files. -/
theorem OnlyOfCards.inside (h : c.OnlyOfCards P t t') (hP : ∀ key, P key → '/' ∉ key.toList) :
    Confined c.Inside (· = (c.temporaryOf c.cardtreePath).location) t t' := by
  refine h.mono (fun loc hloc => ?_) fun loc hloc => ?_
  · obtain ⟨p, rfl | ⟨key, hkey, rfl⟩, rfl⟩ := hloc
    · exact Or.inl rfl
    · refine Or.inr ⟨cardName key, ?_⟩
      rw [cardPath_eq c (hP key hkey), Path.location_child _ (cardName_ne_of_short (by decide) key)]
  · obtain ⟨p, rfl | ⟨key, hkey, rfl⟩, rfl⟩ := hloc
    · exact Or.inr rfl
    · refine Or.inl (Or.inr ⟨temporaryName c.tag (cardName key), ?_⟩)
      have hpath : c.temporaryOf (c.cardPath key) =
          c.cardsFolder.child (temporaryName c.tag (cardName key)) := by
        unfold temporaryOf
        rw [cardPath_eq c (hP key hkey), Path.name_child]
        unfold Path.withName Path.child
        rw [List.dropLast_concat]
      rw [hpath, Path.location_child _ (temporaryName_ne_up c.tag _)]

/-! ## What is written and removed -/

theorem onlyOfCards_writeEach (hkeys : ∀ card ∈ cards, P card.key) (rows : List String)
    (t : FileTree) :
    c.OnlyOfCards P t
      (writeEach c.tag (cards.map c.cardFile ++ [ProgramFile.cardtree c.folder rows]) t).2 := by
  refine confined_writeEach (fun f hf => ?_) t
  rcases List.mem_append.mp hf with hcard | hcardtree
  · obtain ⟨card, hmem, rfl⟩ := List.mem_map.mp hcard
    have hpath : c.OfCards P (c.cardPath card.key) := Or.inr ⟨card.key, hkeys card hmem, rfl⟩
    exact ⟨c.exists_leads card, ⟨_, hpath, rfl⟩, ⟨_, hpath, rfl⟩⟩
  · rw [List.mem_singleton.mp hcardtree]
    have hpath : c.OfCards P c.cardtreePath := Or.inl rfl
    exact ⟨⟨_, leads_shared (isShared_cardtree c rows _ List.mem_cons_self)⟩, ⟨_, hpath, rfl⟩,
      ⟨_, hpath, rfl⟩⟩

theorem Emptied.onlyOfCards (h : c.Emptied cards t t') (hkeys : ∀ card ∈ cards, P card.key) :
    c.OnlyOfCards P t t' := by
  refine ⟨fun loc content hfile hne => absurd (h.file hfile) hne, fun loc content hfile hne => ?_,
    fun loc => h.kept⟩
  obtain ⟨⟨card, hcard, hwhere⟩, -⟩ := h loc fun hsame => hne (hsame.trans hfile)
  exact Or.inl ⟨_, Or.inr ⟨card.key, hkeys card hcard, rfl⟩, hwhere⟩

/-! ## Operations that may fail -/

theorem onlyOfCards_writeAll (hkeys : ∀ card ∈ cards, P card.key) (rows : List String)
    (w : Workspace) : c.OnlyOfCards P w.tree (after (writeAll c.tag
      (cards.map c.cardFile ++ [ProgramFile.cardtree c.folder rows])) w).tree := by
  rw [tree_after_writeAll]
  exact onlyOfCards_writeEach hkeys rows w.tree

theorem onlyOfCards_generate {tree : CardTree} (hgiven : ∀ card ∈ tree.cards, P card.key)
    (hstore : c.project.AllKeys P w.tree) :
    c.OnlyOfCards P w.tree (after (c.generate (some tree)) w).tree := by
  have hmade : c.OnlyOfCards P w.tree (after (Disk.makeFolders c.cardsFolder) w.tree) :=
    Confined.of_madeAlong (Disk.madeAlong_after c.cardsFolder w.tree)
  refine kept_generate (c.OnlyOfCards P w.tree) (Confined.refl _ _ _) hmade
    fun cards others w₁ hcards hmakes _ hothers => ?_
  rw [after_of_ok hmakes] at hmade
  obtain ⟨file, hfile, rfl⟩ := otherFiles_some.mp hothers
  obtain ⟨rows, -, rfl⟩ := extendedCardtree_ok hfile
  exact hmade.trans
    (onlyOfCards_writeAll (keys_subtree (fun _ _ _ => hgiven) hstore hcards) _ _)

theorem onlyOfCards_addCards {trees : List CardTree}
    (hgiven : ∀ found, c.project.findCards (trees.map fun tree => tree.card.key) w.tree =
      .ok found → ∀ tree ∈ trees, found.lookup tree.card.key = none →
        ∀ card ∈ tree.cards, P card.key)
    (hstore : c.project.AllKeys P w.tree) :
    c.OnlyOfCards P w.tree (after (c.addCards trees) w).tree := by
  refine kept_addCards (c.OnlyOfCards P w.tree) (Confined.refl _ _ _)
    fun found rows _ hfound _ _ => ?_
  exact onlyOfCards_writeAll (keys_takenIn (hgiven _ hfound) (hstore.found _ _ hfound)) _ _

theorem onlyOfCards_removeCards {tree : CardTree}
    (hgiven : ∀ found, c.project.findCards [tree.card.key] w.tree = .ok found →
      found.lookup tree.card.key = none → ∀ card ∈ tree.cards, P card.key)
    (hstore : c.project.AllKeys P w.tree) :
    c.OnlyOfCards P w.tree (after (c.removeCards tree) w).tree := by
  have hemptied : ∀ cards, c.subtree tree w.tree = .ok cards →
      c.OnlyOfCards P w.tree (after (c.removeFiles cards) w).tree := fun cards hcards =>
    (c.emptied_removeFiles cards w).onlyOfCards (keys_subtree hgiven hstore hcards)
  have hwritten : ∀ rows t,
      c.OnlyOfCards P t (after ((ProgramFile.cardtree c.folder rows).write c.tag) t) := by
    intro rows t
    have hbatch : c.OnlyOfCards P t (writeEach c.tag
        (([] : List Card).map c.cardFile ++ [ProgramFile.cardtree c.folder rows]) t).2 :=
      onlyOfCards_writeEach (by simp) rows t
    rw [List.map_nil, List.nil_append, writeEach_cons] at hbatch
    exact hbatch
  refine kept_removeCards (c.OnlyOfCards P w.tree) (Confined.refl _ _ _)
    (fun cards _ => hemptied cards) fun cards rows w₁ _ hfinds hremove _ => ?_
  have hgone := hemptied cards hfinds
  rw [after_of_ok hremove] at hgone
  exact hgone.trans (hwritten _ _)

end CardLogic.Corpus
