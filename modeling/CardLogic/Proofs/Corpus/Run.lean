import CardLogic.Proofs.Corpus.Fresh
import CardLogic.Proofs.Corpus.Removal

/-!
A corpus kept up to date, over any run of changes to the store.

A run begins with a whole generation where there was no program folder.  Each further step
changes the store and tells the corpus of it, or generates the whole corpus once more.
Every step keeps the corpus in step with the store (`Run.inStep`), so at any time it is the
corpus that would be generated afresh, but for the order of the rows (`Run.generate_same`).
-/

namespace CardLogic.Corpus

open FileTree ProgramFile

/-- What an action that comes to its end does to the tree. -/
def Does {α : Type} (action : Action α) (t t' : FileTree) : Prop :=
  ∃ w w' a, w.tree = t ∧ action w = .ok a w' ∧ w'.tree = t'

/-- The trees of a project whose corpus is kept up to date, with the cards of its store. -/
inductive Run (c : Corpus) (home : Location) : List Card → FileTree → Prop
  | start {cards : List Card} {t t' : FileTree} (regular : c.project.Regular home cards t)
      (noProgram : t.shapeAt (programAt home) = none) (does : Does (c.generate none) t t') :
      Run c home cards t'
  | again {cards : List Card} {t t' : FileTree} (run : Run c home cards t)
      (does : Does (c.generate none) t t') : Run c home cards t'
  /-- Folders came, and the corpus is told of cards that have them all. -/
  | added {cards cards' : List Card} {t t₁ t' : FileTree} {trees : List CardTree}
      (run : Run c home cards t)
      (came : c.project.Came home cards' (trees.map fun tree => tree.card.key) t t₁)
      (regular : c.project.Regular home cards' t₁)
      (known : ∀ tree ∈ trees, ∃ card ∈ cards', card.key = tree.card.key)
      (does : Does (c.addCards trees) t₁ t') : Run c home cards' t'
  /-- Fields at and below a card changed, and the corpus is told of this card. -/
  | changed {cards cards' : List Card} {t t₁ t' : FileTree} {tree : CardTree}
      (run : Run c home cards t) (rewritten : c.project.Rewritten home cards tree.card.key t t₁)
      (regular : c.project.Regular home cards' t₁)
      (known : ∃ card ∈ cards', card.key = tree.card.key)
      (does : Does (c.generate (some tree)) t₁ t') : Run c home cards' t'
  /-- The corpus is told of a card that is to go, and then its folder goes. -/
  | removedBefore {cards cards' : List Card} {t t₁ t' : FileTree} {tree : CardTree} {key : String}
      (run : Run c home cards t) (found : c.project.findCard? key t = .ok (some tree))
      (does : Does (c.removeCards tree) t t₁) (gone : c.project.Gone home cards key t₁ t')
      (regular : c.project.Regular home cards' t') : Run c home cards' t'
  /-- The folder of a card went, and then the corpus is told of the card as it was. -/
  | removedAfter {cards cards' : List Card} {t t₁ t' : FileTree} {tree : CardTree} {key : String}
      (run : Run c home cards t) (found : c.project.findCard? key t = .ok (some tree))
      (gone : c.project.Gone home cards key t t₁) (regular : c.project.Regular home cards' t₁)
      (does : Does (c.removeCards tree) t₁ t') : Run c home cards' t'

variable {c : Corpus} {home : Location} {cards cards' : List Card} {rules : List RuleFile}
  {t t₁ t' : FileTree} {w w' : Workspace}

/-! ## Whole generations -/

theorem whole_of_regular {paths : List Path} (hreg : c.project.Regular home cards w.tree)
    (h : c.generate none w = .ok paths w') :
    ∃ rules t₁, c.Whole home cards rules w.tree t₁ w'.tree := by
  obtain ⟨home', cards', rules, t₁, hwhole, -⟩ := whole_of_generate hreg.names h
  cases hreg.readCards.symm.trans hwhole.readCards
  have hfolder := folderAt_of_makeFolders hreg.base hwhole.makes
  have hloc : cardsAt home = cardsAt home' :=
    Except.ok.inj (hfolder.resolve.symm.trans hwhole.folder.resolve)
  cases cardsAt_inj hloc
  exact ⟨rules, t₁, hwhole⟩

theorem inStep_start (htag : IsTag c.tag) (hreg : c.project.Regular home cards t)
    (hnone : t.shapeAt (programAt home) = none) (h : Does (c.generate none) t t') :
    ∃ rules, InStep c home cards rules t' := by
  obtain ⟨w, w', paths, rfl, hgenerate, rfl⟩ := h
  obtain ⟨rules, t₁, hwhole⟩ := whole_of_regular hreg hgenerate
  have honly := onlyProgram_of_makeFolders hreg.base hwhole.makes
  have hempty := holdsJust_of_makeFolders hreg.base hwhole.makes hnone
  exact ⟨rules, inStep_of_whole htag (honly.regular hreg) hwhole hempty (by simp)⟩

theorem InStep.again (h : InStep c home cards rules t) (htag : IsTag c.tag)
    (hdoes : Does (c.generate none) t t') : ∃ rules, InStep c home cards rules t' := by
  obtain ⟨w, w', paths, rfl, hgenerate, rfl⟩ := hdoes
  obtain ⟨rules', t₁, hwhole⟩ := whole_of_regular h.regular hgenerate
  -- The folders were there, so making them did nothing.
  have hmakes := Disk.makeFolders_of_folder h.folder
  rw [hwhole.makes] at hmakes
  cases hmakes
  cases h.readRules.symm.trans hwhole.readRules
  obtain ⟨rows, -, hholds⟩ := h.holds
  refine ⟨rules, inStep_of_whole htag h.regular hwhole hholds fun x hx => ?_⟩
  exact exists_same_slot (fun card hcard _ => ⟨card, hcard, rfl⟩) hx

/-! ## Cards that come -/

/-- The trees that are taken in, when all the cards are known, are those of the store. -/
theorem mem_listing_asFound {trees : List CardTree} {found : List (String × CardTree)}
    (hreg : c.project.Regular home cards t)
    (hfound : c.project.findCards (trees.map fun tree => tree.card.key) t = .ok found)
    (hknown : ∀ tree ∈ trees, ∃ card ∈ cards, card.key = tree.card.key) (card : Card) :
    card ∈ CardTree.listing (asFound found trees) ↔
      ∃ root ∈ cards, root.key ∈ trees.map (fun tree => tree.card.key) ∧ card ∈ cards ∧
        root.path.IsBelow card.path := by
  unfold asFound
  rw [CardTree.mem_listing]
  constructor
  · intro h
    obtain ⟨tree', htree', hcard⟩ := h
    obtain ⟨tree, htree, rfl⟩ := List.mem_map.mp htree'
    obtain ⟨root, hroot, hkey⟩ := hknown tree htree
    have hmem : root.key ∈ trees.map fun tree => tree.card.key := by
      rw [hkey]
      exact List.mem_map_of_mem htree
    obtain ⟨tree', hlookup, htreeOf⟩ := Project.treeOf_of_findCards hreg hfound hroot hmem
    rw [← hkey, hlookup, Option.getD_some, htreeOf.mem_cards] at hcard
    exact ⟨root, hroot, hmem, hcard⟩
  · intro h
    obtain ⟨root, hroot, hmem, hcard⟩ := h
    obtain ⟨tree', hlookup, htreeOf⟩ := Project.treeOf_of_findCards hreg hfound hroot hmem
    obtain ⟨tree, htree, hkey⟩ := List.mem_map.mp hmem
    refine ⟨tree', List.mem_map.mpr ⟨tree, htree, ?_⟩, htreeOf.mem_cards card |>.mpr hcard⟩
    rw [hkey, hlookup, Option.getD_some]

theorem InStep.added {trees : List CardTree} (h : InStep c home cards rules t)
    (htag : IsTag c.tag)
    (hcame : c.project.Came home cards' (trees.map fun tree => tree.card.key) t t₁)
    (hreg : c.project.Regular home cards' t₁)
    (hknown : ∀ tree ∈ trees, ∃ card ∈ cards', card.key = tree.card.key)
    (hdoes : Does (c.addCards trees) t₁ t') : InStep c home cards' rules t' := by
  obtain ⟨w, w', paths, rfl, hadd, rfl⟩ := hdoes
  have hstands := h.toStands.of_onlyStore hcame.onlyStore hreg.base
  obtain ⟨found, rows, ⟨-, hfound, -, hread, hwrite⟩, -⟩ :=
    steps_of_addCards hstands.isThere hadd
  have hlisting := mem_listing_asFound hreg hfound hknown
  have hnew : ∀ card ∈ takenIn found trees, card ∈ cards' := fun card hcard => by
    obtain ⟨-, -, -, hmem, -⟩ := (hlisting card).mp (mem_of_mem_firstOfEachKey hcard)
    exact hmem
  refine inStep_of_scoped htag hstands h.regular hreg hread hwrite (nodup_firstOfEachKey _) hnew ?_
    fun card hcard => ⟨card, hcame.mem_of_mem h.regular hreg hcard, rfl⟩
  intro card hcard
  rcases hcame.mem_or_isBelow h.regular hreg hcard with hold | ⟨root, hroot, hkey, hbelow⟩
  · exact Or.inr hold
  · left
    obtain ⟨other, hother, hsame⟩ := exists_mem_firstOfEachKey
      ((hlisting card).mpr ⟨root, hroot, hkey, hcard, hbelow⟩)
    rw [← hreg.eq_of_key (hnew other hother) hcard hsame]
    exact hother

/-! ## Cards that change -/

/-- The cards at and below a card that the store has. -/
theorem subtree_of_known {tree : CardTree} (hreg : c.project.Regular home cards t) {root : Card}
    (hroot : root ∈ cards) (hkey : root.key = tree.card.key) {affected : List Card}
    (h : c.subtree tree t = .ok affected) (card : Card) :
    card ∈ affected ↔ card ∈ cards ∧ root.path.IsBelow card.path := by
  obtain ⟨found, hfound, rfl⟩ := subtree_ok h
  have hmem : root.key ∈ [tree.card.key] := by
    rw [hkey]
    exact List.mem_cons_self
  obtain ⟨tree', hlookup, htreeOf⟩ := Project.treeOf_of_findCards hreg hfound hroot hmem
  rw [← hkey, hlookup, Option.getD_some, htreeOf.mem_cards]

theorem nodup_subtree {tree : CardTree} (hreg : c.project.Regular home cards t) {root : Card}
    (hroot : root ∈ cards) (hkey : root.key = tree.card.key) {affected : List Card}
    (h : c.subtree tree t = .ok affected) : (affected.map Card.key).Nodup := by
  obtain ⟨found, hfound, rfl⟩ := subtree_ok h
  have hmem : root.key ∈ [tree.card.key] := by
    rw [hkey]
    exact List.mem_cons_self
  obtain ⟨tree', hlookup, htreeOf⟩ := Project.treeOf_of_findCards hreg hfound hroot hmem
  rw [← hkey, hlookup, Option.getD_some]
  exact hreg.keys.sublist (htreeOf.isPart.sublist.map _)

theorem InStep.changed {tree : CardTree} (h : InStep c home cards rules t) (htag : IsTag c.tag)
    (hrewritten : c.project.Rewritten home cards tree.card.key t t₁)
    (hreg : c.project.Regular home cards' t₁)
    (hknown : ∃ card ∈ cards', card.key = tree.card.key)
    (hdoes : Does (c.generate (some tree)) t₁ t') : InStep c home cards' rules t' := by
  obtain ⟨w, w', paths, rfl, hgenerate, rfl⟩ := hdoes
  have hstands := h.toStands.of_onlyStore hrewritten.onlyStore hreg.base
  obtain ⟨newCards, others, t₂, ⟨hcards, hmakes, -, hothers, hwrite⟩, -⟩ :=
    steps_of_generate hgenerate
  cases (Disk.makeFolders_of_folder hstands.folder).symm.trans hmakes
  obtain ⟨file, hfile, rfl⟩ := otherFiles_some.mp hothers
  obtain ⟨rows, hread, rfl⟩ := extendedCardtree_ok hfile
  obtain ⟨root, hroot, hkey⟩ := hknown
  have hmem := subtree_of_known hreg hroot hkey hcards
  have hnew : ∀ card ∈ newCards, card ∈ cards' := fun card hcard => ((hmem card).mp hcard).1
  refine inStep_of_scoped htag hstands h.regular hreg hread hwrite
    (nodup_subtree hreg hroot hkey hcards) hnew ?_ fun card hcard => ?_
  · intro card hcard
    obtain ⟨old, hold, -, -, hsame⟩ := hrewritten.exists_before h.regular hreg hcard
    rcases hsame with rfl | ⟨root', hroot', hkey', hbelow⟩
    · exact Or.inr hold
    · left
      obtain ⟨after, hafter, hkeyAfter, hpath⟩ := hrewritten.exists_after h.regular hreg hroot'
      have hsame := hreg.eq_of_key hafter hroot (hkeyAfter.trans (hkey'.trans hkey.symm))
      rw [hmem, ← hsame, hpath]
      exact ⟨hcard, hbelow⟩
  · obtain ⟨after, hafter, hkeyAfter, -⟩ := hrewritten.exists_after h.regular hreg hcard
    exact ⟨after, hafter, hkeyAfter⟩

/-! ## Cards that go -/

/-- The tree that is found for a key is that of the card. -/
theorem treeOf_of_findCard? {tree : CardTree} {key : String}
    (hreg : c.project.Regular home cards t) (h : c.project.findCard? key t = .ok (some tree))
    {root : Card} (hroot : root ∈ cards) (hkey : root.key = key) :
    Project.TreeOf cards root tree := by
  unfold Project.findCard? at h
  cases hfound : c.project.findCards [key] t with
  | error e => rw [hfound] at h; exact absurd h (by simp [Except.map])
  | ok found =>
    rw [hfound] at h
    have hlookup : found.lookup key = some tree := Except.ok.inj h
    have hmem : root.key ∈ [key] := by
      rw [hkey]
      exact List.mem_cons_self
    obtain ⟨tree', hlookup', htreeOf⟩ := Project.treeOf_of_findCards hreg hfound hroot hmem
    rw [hkey, hlookup] at hlookup'
    cases hlookup'
    exact htreeOf

theorem subtree_of_found {tree : CardTree} {key : String}
    (h : c.project.findCard? key t = .ok (some tree)) (hkey : tree.card.key = key)
    (affected : List Card) (hsubtree : c.subtree tree t = .ok affected) :
    affected = tree.cards := by
  rw [← hkey] at h
  rw [subtree_of_findCard? h] at hsubtree
  exact (Except.ok.inj hsubtree).symm

/-- Of a card that the store has no more, the tree that is given counts. -/
theorem subtree_of_unknown {tree : CardTree} (hreg : c.project.Regular home cards t)
    (hkey : tree.card.key ∉ cards.map Card.key) {affected : List Card}
    (h : c.subtree tree t = .ok affected) : affected = tree.cards := by
  obtain ⟨found, hfound, rfl⟩ := subtree_ok h
  rw [Project.lookup_eq_none hreg hfound hkey, Option.getD_none]

theorem onlyStore_of_gone {key : String} (h : c.project.Gone home cards key t t')
    (hreg : c.project.Regular home cards t) : Project.OnlyStore home t t' := by
  obtain ⟨-, -, -, loc, -, hshape⟩ := h.shapeAt hreg
  intro l hl
  rw [hshape, if_neg]
  refine fun hpre => hl (List.IsPrefix.trans ?_ hpre)
  exact ⟨loc, by simp⟩

/-- The cards that stay are those that are not in the tree of the card that goes. -/
theorem mem_iff_of_gone {tree : CardTree} {key : String} {t₀ : FileTree}
    (hgone : c.project.Gone home cards key t t') (hreg : c.project.Regular home cards t)
    (hreg' : c.project.Regular home cards' t') (hreg₀ : c.project.Regular home cards t₀)
    (hfound : c.project.findCard? key t₀ = .ok (some tree)) :
    tree.card.key = key ∧ key ∉ cards'.map Card.key ∧ (∀ card ∈ tree.cards, card ∈ cards) ∧
      ∀ card, card ∈ cards' ↔ card ∈ cards ∧ card ∉ tree.cards := by
  obtain ⟨root, hroot, hkey, hstay⟩ := hgone.mem_iff hreg hreg'
  have htreeOf := treeOf_of_findCard? hreg₀ hfound hroot hkey
  refine ⟨htreeOf.key.trans hkey, ?_, fun card hcard => ((htreeOf.mem_cards card).mp hcard).1,
    fun card => ?_⟩
  · intro hmem
    obtain ⟨card, hcard, hsame⟩ := List.mem_map.mp hmem
    obtain ⟨hold, hnot⟩ := (hstay card).mp hcard
    rw [hreg.eq_of_key hold hroot (hsame.trans hkey.symm)] at hnot
    exact hnot ⟨[], (Path.below_nil root.path).symm⟩
  · rw [hstay, htreeOf.mem_cards]
    tauto

theorem InStep.removedBefore {tree : CardTree} {key : String} (h : InStep c home cards rules t)
    (htag : IsTag c.tag) (hfound : c.project.findCard? key t = .ok (some tree))
    (hdoes : Does (c.removeCards tree) t t₁) (hgone : c.project.Gone home cards key t₁ t')
    (hreg : c.project.Regular home cards' t') : InStep c home cards' rules t' := by
  obtain ⟨w, w', keys, rfl, hremove, rfl⟩ := hdoes
  obtain ⟨root, hroot, hkey, -⟩ := id hgone
  have htreeOf := treeOf_of_findCard? h.regular hfound hroot hkey
  obtain ⟨honly, hleft⟩ := h.toStands.removeCards htag h.regular
    (subtree_of_found hfound (htreeOf.key.trans hkey))
    (fun card hcard => ((htreeOf.mem_cards card).mp hcard).1) hremove
  have hreg₁ := honly.regular h.regular
  obtain ⟨-, -, -, hstay⟩ := mem_iff_of_gone hgone hreg₁ hreg h.regular hfound
  have hlater := hleft cards' hreg.keys hstay
  exact ⟨hlater.of_onlyStore (onlyStore_of_gone hgone hreg₁) hreg.base, hreg⟩

theorem InStep.removedAfter {tree : CardTree} {key : String} (h : InStep c home cards rules t)
    (htag : IsTag c.tag) (hfound : c.project.findCard? key t = .ok (some tree))
    (hgone : c.project.Gone home cards key t t₁) (hreg : c.project.Regular home cards' t₁)
    (hdoes : Does (c.removeCards tree) t₁ t') : InStep c home cards' rules t' := by
  obtain ⟨w, w', keys, rfl, hremove, rfl⟩ := hdoes
  have hstands := h.toStands.of_onlyStore (onlyStore_of_gone hgone h.regular) hreg.base
  obtain ⟨hkey, hunknown, hremoved, hstay⟩ :=
    mem_iff_of_gone hgone h.regular hreg h.regular hfound
  rw [← hkey] at hunknown
  obtain ⟨honly, hleft⟩ := hstands.removeCards htag h.regular
    (fun affected => subtree_of_unknown hreg hunknown) hremoved hremove
  exact ⟨hleft cards' hreg.keys hstay, honly.regular hreg⟩

/-! ## Runs -/

namespace Run

/-- Every step keeps the corpus in step with the store. -/
theorem inStep (htag : IsTag c.tag) (h : Run c home cards t) :
    ∃ rules, InStep c home cards rules t := by
  induction h with
  | start hreg hnone hdoes => exact inStep_start htag hreg hnone hdoes
  | again _ hdoes ih =>
    obtain ⟨rules, hin⟩ := ih
    exact hin.again htag hdoes
  | added _ hcame hreg hknown hdoes ih =>
    obtain ⟨rules, hin⟩ := ih
    exact ⟨rules, hin.added htag hcame hreg hknown hdoes⟩
  | changed _ hrewritten hreg hknown hdoes ih =>
    obtain ⟨rules, hin⟩ := ih
    exact ⟨rules, hin.changed htag hrewritten hreg hknown hdoes⟩
  | removedBefore _ hfound hdoes hgone hreg ih =>
    obtain ⟨rules, hin⟩ := ih
    exact ⟨rules, hin.removedBefore htag hfound hdoes hgone hreg⟩
  | removedAfter _ hfound hgone hreg hdoes ih =>
    obtain ⟨rules, hin⟩ := ih
    exact ⟨rules, hin.removedAfter htag hfound hgone hreg hdoes⟩

/-- The way to the project does not lead through its program folder, for the run began
without one. -/
theorem exists_without (h : Run c home cards t) :
    ∃ t₀, FolderAt t₀ c.project.base home ∧ t₀.shapeAt (programAt home) = none := by
  induction h with
  | start hreg hnone _ => exact ⟨_, hreg.base, hnone⟩
  | again _ _ ih => exact ih
  | added _ _ _ _ _ ih => exact ih
  | changed _ _ _ _ _ ih => exact ih
  | removedBefore _ _ _ _ _ ih => exact ih
  | removedAfter _ _ _ _ _ ih => exact ih

/-- At any time of a run the corpus is the one that a whole generation leaves, with the
program folder or without it, but for the order of the rows of its cards. -/
theorem generate_same (htag : IsTag c.tag) (h : Run c home cards t) :
    c.project.cards t = .ok cards ∧ ∃ rows, rows.Perm (rowsOf cards) ∧
      t.shapeAt (programAt home ++ [cardtreeName]) = some (.file (bytesOf (rowsText rows))) ∧
      ∀ w : Workspace, w.tree = t ∨ w.tree = t.remove (programAt home) →
        ∃ w', c.generate none w = .ok (c.wholePaths cards) w' ∧
          w'.tree.shapeAt (programAt home ++ [cardtreeName]) =
            some (.file (bytesOf (rowsText (rowsOf cards)))) ∧
          ∀ loc, loc ≠ programAt home ++ [cardtreeName] →
            w'.tree.shapeAt loc = t.shapeAt loc := by
  obtain ⟨rules, hin⟩ := h.inStep htag
  obtain ⟨t₀, hbase₀, hnone₀⟩ := h.exists_without
  have hremoved := programRemoved_remove hbase₀ hnone₀ hin.regular.base
  obtain ⟨rows, hperm, hholds⟩ := hin.holds
  refine ⟨hin.regular.readCards, rows, hperm,
    (hholds.stands _ (cardtree_mem_filesOf c home cards rows rules)).2, fun w hw => ?_⟩
  obtain ⟨⟨t₁, hready⟩, hsame⟩ : (∃ t₁, Ready c home cards rules w.tree t₁) ∧
      ∀ loc, ¬ programAt home <+: loc → w.tree.shapeAt loc = t.shapeAt loc := by
    rcases hw with hw | hw
    · rw [hw]
      exact ⟨⟨t, hin.ready⟩, fun _ _ => rfl⟩
    · rw [hw]
      exact ⟨hin.ready_of_removed hremoved, fun _ => hremoved.elsewhere⟩
  obtain ⟨w', hgenerate, honly, hholds'⟩ := hready.generate htag
  refine ⟨w', hgenerate,
    (hholds'.stands _ (cardtree_mem_filesOf c home cards (rowsOf cards) rules)).2,
    fun loc hne => ?_⟩
  by_cases hloc : programAt home <+: loc
  · exact eq_of_holdsJust hholds' hholds hloc hne
  · rw [honly.elsewhere loc hloc, hsame loc hloc]

end Run

/-- The tree that an action leaves. -/
def treeAfter {α : Type} (action : Action α) (t : FileTree) : FileTree :=
  match action ⟨t, [], []⟩ with
  | .ok _ w => w.tree
  | .error _ w => w.tree

def comesToEnd {α : Type} (action : Action α) (t : FileTree) : Bool :=
  match action ⟨t, [], []⟩ with
  | .ok _ _ => true
  | .error _ _ => false

theorem ok_of_comesToEnd {α : Type} {action : Action α} (h : comesToEnd action t = true) :
    ∃ a w, action ⟨t, [], []⟩ = .ok a w ∧ w.tree = treeAfter action t := by
  unfold comesToEnd at h
  unfold treeAfter
  cases haction : action ⟨t, [], []⟩ with
  | error e w => rw [haction] at h; exact absurd h (by simp)
  | ok a w => exact ⟨a, w, rfl, rfl⟩

theorem does_treeAfter {α : Type} {action : Action α} (h : comesToEnd action t = true) :
    Does action t (treeAfter action t) := by
  obtain ⟨a, w, haction, htree⟩ := ok_of_comesToEnd h
  exact ⟨_, w, a, rfl, haction, htree⟩

theorem fails_treeAfter {α : Type} {action : Action α} (h : comesToEnd action t = false) :
    ∃ f w', action ⟨t, [], []⟩ = .error f w' ∧ w'.tree = treeAfter action t := by
  unfold comesToEnd at h
  unfold treeAfter
  cases haction : action ⟨t, [], []⟩ with
  | error f w' => exact ⟨f, w', rfl, rfl⟩
  | ok a w' => rw [haction] at h; exact absurd h (by simp)

/-- Two cards side by side, and one below the second. -/
def smallStore : FileTree :=
  ⟨[("p", .folder [("cardroot", .folder
      [("a", .folder [("index.json", .file (bytesOf "{}"))]),
        ("b", .folder [("c", .folder [("d", .folder [("index.json", .file (bytesOf "{}"))])]),
          ("index.json", .file (bytesOf "{}"))])])])],
    by simp only [Node.OrderedEntries, Node.Ordered]; decide⟩

def smallCorpus : Corpus := ⟨⟨Path.ofString "/p"⟩, "12-34"⟩

/-- The keys and the paths of the cards of a store. -/
def smallListing (t : FileTree) : Option (List (String × Path)) :=
  (smallCorpus.project.cards t).toOption.map (List.map fun card => (card.key, card.path))

theorem exists_cards_of_smallListing {listing : List (String × Path)}
    (h : smallListing t = some listing) :
    ∃ cards, smallCorpus.project.cards t = .ok cards ∧
      cards.map (fun card => (card.key, card.path)) = listing ∧
      cards.map Card.key = listing.map Prod.fst := by
  unfold smallListing at h
  cases hcards : smallCorpus.project.cards t with
  | error e => rw [hcards] at h; exact absurd h (by simp [Except.toOption])
  | ok cards =>
    rw [hcards] at h
    have hlisting := Option.some.inj h
    refine ⟨cards, rfl, hlisting, ?_⟩
    rw [← hlisting, List.map_map]
    rfl

/-- The keys and the paths of the cards of the small store. -/
def smallCards : List (String × Path) :=
  [("a", smallCorpus.project.cardRoot.below ["a"]),
    ("b", smallCorpus.project.cardRoot.below ["b"]),
    ("d", smallCorpus.project.cardRoot.below ["b", "c", "d"])]

theorem exists_smallCards : ∃ cards, smallCorpus.project.Regular ["p"] cards smallStore ∧
    cards.map (fun card => (card.key, card.path)) = smallCards ∧
    cards.map Card.key = ["a", "b", "d"] := by
  obtain ⟨cards, hcards, hlisting⟩ := exists_cards_of_smallListing (t := smallStore)
    (show _ = some smallCards by decide +kernel)
  have hcheck : smallCorpus.project.isRegular ["p"] smallStore = true := by decide +kernel
  exact ⟨cards, Project.regular_of_isRegular hcheck hcards, hlisting⟩

def smallGenerated : FileTree := treeAfter (smallCorpus.generate none) smallStore

theorem does_smallGenerated : Does (smallCorpus.generate none) smallStore smallGenerated :=
  does_treeAfter (by decide +kernel)

def smallRemoved : FileTree := smallGenerated.remove ["p", "cardroot", "b"]

/-- The second card, as it is found before its folder goes, can be taken out afterwards. -/
def secondComesOut : Bool :=
  match smallCorpus.project.findCard? "b" smallGenerated with
  | .ok (some tree) => comesToEnd (smallCorpus.removeCards tree) smallRemoved
  | _ => false

/-- A run that generates the corpus of the store and takes out the second card and the one
below it, after their folder went. -/
theorem exists_smallRun : ∃ cards t, cards.map Card.key = ["a"] ∧
    Run smallCorpus ["p"] cards t := by
  obtain ⟨cards, hreg, hlisting, -⟩ := exists_smallCards
  obtain ⟨cards', hcards', -, hkeys'⟩ := exists_cards_of_smallListing (t := smallRemoved)
    (show _ = some [("a", smallCorpus.project.cardRoot.below ["a"])] by decide +kernel)
  obtain ⟨tree, hfound, hremove⟩ : ∃ tree,
      smallCorpus.project.findCard? "b" smallGenerated = .ok (some tree) ∧
        comesToEnd (smallCorpus.removeCards tree) smallRemoved = true := by
    have hcheck : secondComesOut = true := by decide +kernel
    unfold secondComesOut at hcheck
    split at hcheck
    next tree hfound => exact ⟨tree, hfound, hcheck⟩
    next => exact absurd hcheck (by simp)
  have hreg' := Project.regular_of_isRegular
    (show smallCorpus.project.isRegular ["p"] smallRemoved = true by decide +kernel) hcards'
  have hstart : Run smallCorpus ["p"] cards smallGenerated :=
    .start hreg (by decide +kernel) does_smallGenerated
  have hgone : smallCorpus.project.Gone ["p"] cards "b" smallGenerated smallRemoved := by
    have hmem : ("b", smallCorpus.project.cardRoot.below ["b"]) ∈
        cards.map fun card => (card.key, card.path) := by
      rw [hlisting]
      exact List.mem_cons_of_mem _ List.mem_cons_self
    obtain ⟨card, hcard, hpair⟩ := List.mem_map.mp hmem
    exact ⟨card, hcard, congrArg Prod.fst hpair, ["b"], congrArg Prod.snd hpair, rfl⟩
  exact ⟨cards', treeAfter (smallCorpus.removeCards tree) smallRemoved, hkeys',
    hstart.removedAfter hfound hgone hreg' (does_treeAfter hremove)⟩

theorem generate_same_small : ∃ cards t w', cards.map Card.key = ["a"] ∧
    Run smallCorpus ["p"] cards t ∧
    smallCorpus.generate none ⟨t.remove (programAt ["p"]), [], []⟩ =
      .ok (smallCorpus.wholePaths cards) w' ∧
    ∀ loc, loc ≠ programAt ["p"] ++ [cardtreeName] → w'.tree.shapeAt loc = t.shapeAt loc := by
  obtain ⟨cards, t, hkeys, hrun⟩ := exists_smallRun
  have htag : IsTag smallCorpus.tag := by decide
  obtain ⟨-, rows, -, -, hgenerate⟩ := Run.generate_same htag hrun
  obtain ⟨w', hw', -, hsame⟩ :=
    hgenerate ⟨t.remove (programAt ["p"]), [], []⟩ (Or.inr rfl)
  exact ⟨cards, t, w', hkeys, hrun, hw', hsame⟩

end CardLogic.Corpus
