import CardLogic.Proofs.Corpus.BrokenOff
import CardLogic.Proofs.Corpus.Calls
import CardLogic.Proofs.FileTree.Absent

/-!
Cards taken out of a corpus.

The cards that go are those found for a card's key, or else those given with it.  Their files go,
and of the rows those that are written for their keys, however the file of rows came about; all
other rows stay, in their order, and so does every other file (`takenOut_of_removeCards`).  What is
gone need not be removed twice: another call finds the same cards, none of their files and none of
their rows.
-/

namespace CardLogic.Corpus

open FileTree ProgramFile

/-- Some cards were taken out: the keys are those of the rows that went. -/
structure TakenOut (c : Corpus) (tree : CardTree) (affected : List Card) (keys : List String)
    (t t' : FileTree) : Prop where
  files : ∀ card ∈ affected, t'.shapeAt (cardSlot c.home card.key).target = none
  rows : ∃ rows, readRows t c.cardtreePath = .ok rows ∧
    readRows t' c.cardtreePath = .ok (rows.filter fun row => row ∉ rowsOf affected) ∧
    keys.map cardRow = rows.filter fun row => row ∈ rowsOf affected
  others : ∀ key, key ∉ affected.map Card.key → cardRow key ∉ rowsOf affected
  temporary : t'.shapeAt ((sharedSlot c.home cardtreeName).temporary c.tag) = none
  elsewhere : ∀ loc, loc ≠ (sharedSlot c.home cardtreeName).target →
    loc ≠ (sharedSlot c.home cardtreeName).temporary c.tag →
    (∀ card ∈ affected, loc ≠ (cardSlot c.home card.key).target) → t'.shapeAt loc = t.shapeAt loc
  again : ∀ w, w.tree = t' → ∃ w', c.removeCards tree w = .ok [] w' ∧ w'.tree = t'

variable {c : Corpus} {tree : CardTree} {affected : List Card} {keys : List String}
  {rows : List String} {t t₁ t' : FileTree} {w w' : Workspace}

/-! ## Files -/

theorem FilesGone.thinned (h : c.FilesGone affected t t') : Thinned t t' := by
  refine ⟨fun loc => (h.folder_iff loc).mpr, fun loc hnone => ?_⟩
  by_cases hloc : ∃ card ∈ affected, t.resolve (c.cardPath card.key) = .ok loc
  · obtain ⟨card, hcard, hr⟩ := hloc
    exact (h.gone card hcard loc hr).2
  · rw [h.same loc fun card hcard hr => hloc ⟨card, hcard, hr⟩, hnone]

theorem absent_of_removeFiles (h : c.removeFiles affected w = .ok () w') :
    ∀ card ∈ affected, Absent w'.tree (c.cardPath card.key) := by
  induction affected generalizing w with
  | nil => exact fun card hcard => absurd hcard (by simp)
  | cons first rest ih =>
    obtain ⟨b, w₁, hremove, hrest⟩ := ok_of_removeFiles_cons h
    intro card hcard
    rcases List.mem_cons.mp hcard with rfl | hcard
    · exact (Absent.of_removeIfThere hremove).mono (filesGone_of_removeFiles hrest).thinned
    · exact ih hrest card hcard

/-- Files that are absent are removed without a change. -/
theorem removeFiles_of_absent (h : ∀ card ∈ affected, Absent w.tree (c.cardPath card.key)) :
    ∃ w', c.removeFiles affected w = .ok () w' ∧ w'.tree = w.tree := by
  induction affected generalizing w with
  | nil => exact ⟨w, rfl, rfl⟩
  | cons card rest ih =>
    have hremove := (h card List.mem_cons_self).removeIfThere
    have hrest : ∀ card ∈ rest, Absent w.tree (c.cardPath card.key) :=
      fun other hother => h other (List.mem_cons_of_mem card hother)
    rw [removeFiles, Action.bind_of_ok (Action.disk_of_ok hremove)]
    exact ih (w := { w with log := w.log ++ _ }) hrest

theorem shapeAt_of_absent (hfolder : FolderAt t c.folder (programAt c.home)) {key : String}
    (hkey : '/' ∉ key.toList) (h : Absent t (c.cardPath key)) :
    t.shapeAt (cardSlot c.home key).target = none := by
  rw [cardPath_eq c hkey] at h
  exact h.shapeAt_child_child hfolder (by decide) (by decide)
    (cardName_ne_of_short (by decide) key)

/-! ## Rows -/

/-- The keys of the rows that go are in the order of the rows, each as often as its row. -/
theorem map_cardRow_keysOfRows (affected : List Card) (rows : List String) :
    (keysOfRows affected rows).map cardRow = rows.filter fun row => row ∈ rowsOf affected := by
  have hrow : ∀ row : String,
      ((affected.find? fun card => cardRow card.key = row).map Card.key).map cardRow =
        if row ∈ rowsOf affected then some row else none := by
    intro row
    cases hfind : affected.find? fun card => cardRow card.key = row with
    | none =>
      have hno : row ∉ rowsOf affected := by
        intro hmem
        obtain ⟨card, hcard, heq⟩ := List.mem_map.mp hmem
        exact List.find?_eq_none.mp hfind card hcard (decide_eq_true heq)
      rw [if_neg hno]
      rfl
    | some card =>
      have heq : cardRow card.key = row := by simpa using List.find?_some hfind
      have hmem : row ∈ rowsOf affected :=
        List.mem_map.mpr ⟨card, List.mem_of_find?_eq_some hfind, heq⟩
      rw [if_pos hmem, ← heq]
      rfl
  unfold keysOfRows
  rw [List.map_filterMap]
  simp only [hrow]
  induction rows with
  | nil => rfl
  | cons row rows ih =>
    rw [List.filterMap_cons]
    by_cases hmem : row ∈ rowsOf affected
    · rw [if_pos hmem, List.filter_cons_of_pos (by simpa using hmem), ih]
    · rw [if_neg hmem, List.filter_cons_of_neg (by simpa using hmem), ih]

theorem otherRows_otherRows (affected : List Card) (rows : List String) :
    otherRows affected (otherRows affected rows) = otherRows affected rows :=
  List.filter_eq_self.mpr fun _ hrow => (List.mem_filter.mp hrow).2

theorem keysOfRows_otherRows (affected : List Card) (rows : List String) :
    keysOfRows affected (otherRows affected rows) = [] := by
  refine List.map_eq_nil_iff.mp ((map_cardRow_keysOfRows affected _).trans ?_)
  refine List.filter_eq_nil_iff.mpr fun row hrow hmem => ?_
  have hother := (List.mem_filter.mp hrow).2
  rw [decide_eq_true_eq] at hother hmem
  exact hother hmem

/-! ## Both -/

/-- The file of rows without those of some cards, in its slot. -/
def otherRowsBatch (c : Corpus) (affected : List Card) (rows : List String) :
    List (ProgramFile × Slot) :=
  [(ProgramFile.cardtree c.folder (otherRows affected rows), sharedSlot c.home cardtreeName)]

/-- What a call that comes to its end did: the files went, and then the file of rows was put in
its place again. -/
structure Taken (c : Corpus) (affected : List Card) (rows : List String) (t t₁ t' : FileTree) :
    Prop where
  folder : FolderAt t c.folder (programAt c.home)
  gone : c.FilesGone affected t t₁
  absent : ∀ card ∈ affected, Absent t₁ (c.cardPath card.key)
  cardtree : ∃ content, t.shapeAt (sharedSlot c.home cardtreeName).target = some (.file content)
  read : readRows t₁ c.cardtreePath = .ok rows
  placed : Placed c.tag (c.otherRowsBatch affected rows) t₁ t'

theorem apart_otherRowsBatch (c : Corpus) (affected : List Card) (rows : List String) :
    Apart c.tag (c.otherRowsBatch affected rows) := by
  refine ⟨List.nodup_singleton _, fun x hx y hy => ?_⟩
  rw [List.mem_singleton.mp hx, List.mem_singleton.mp hy]
  exact temporary_ne_target _ _

theorem taken_of_removeCards (hthere : c.isThere w.tree = .ok true)
    (haffected : c.subtree tree w.tree = .ok affected) (h : c.removeCards tree w = .ok keys w') :
    ∃ rows t₁, c.Taken affected rows w.tree t₁ w'.tree ∧ keys = keysOfRows affected rows := by
  obtain ⟨affected', rows, w₁, ⟨-, haffected', hfiles, hread, hwrite⟩, hkeys⟩ :=
    steps_of_removeCards hthere h
  cases haffected.symm.trans haffected'
  obtain ⟨hfolder, -, hcardtree⟩ := cardtree_of_isThere hthere
  have hgone := filesGone_of_removeFiles hfiles
  have hslot := hasSlot_cardtree (hfolder.of_kept hgone.thinned.folders) (otherRows affected rows)
  have hplaced : Placed c.tag (c.otherRowsBatch affected rows) w₁.tree w'.tree := by
    refine placed_of_writeEach (fun x hx => ?_) (apart_otherRowsBatch c affected rows) ?_
    · rw [List.mem_singleton.mp hx]
      exact hslot
    · simp only [otherRowsBatch, List.map_cons, List.map_nil, writeEach, hwrite]
  exact ⟨rows, w₁.tree, ⟨hfolder, hgone, absent_of_removeFiles hfiles, hcardtree, hread, hplaced⟩,
    hkeys⟩

namespace Taken

variable (h : c.Taken affected rows t t₁ t') (hkeys : ∀ card ∈ affected, '/' ∉ card.key.toList)

include h

theorem folder_after : FolderAt t' c.folder (programAt c.home) :=
  folder_of_placed h.placed List.mem_cons_self

include hkeys in
theorem cardtree_between : ∃ content,
    t.shapeAt (sharedSlot c.home cardtreeName).target = some (.file content) ∧
      t₁.shapeAt (sharedSlot c.home cardtreeName).target = some (.file content) := by
  obtain ⟨content, hfile⟩ := h.cardtree
  have hsame := h.gone.cardtree_eq hkeys
  rw [location_cardtreePath] at hsame
  exact ⟨content, hfile, hsame.trans hfile⟩

include hkeys in
/-- Before, the rows were those that were read when the files were gone. -/
theorem readRows_before : readRows t c.cardtreePath = .ok rows := by
  obtain ⟨content, hfile, hfile₁⟩ := h.cardtree_between hkeys
  have hresolve₁ : t₁.resolve c.cardtreePath = .ok (sharedSlot c.home cardtreeName).target :=
    h.placed.resolve List.mem_cons_self
  rw [readRows_congr hresolve₁ (h.gone.resolve_iff.mp hresolve₁) hfile₁ hfile]
  exact h.read

theorem readRows_after : readRows t' c.cardtreePath = .ok (otherRows affected rows) :=
  readRows_of_placed h.placed List.mem_cons_self fun _ hrow =>
    isRow_of_readRows h.read (mem_otherRows.mp hrow).1

theorem elsewhere_between {loc : Location} (htarget : loc ≠ (sharedSlot c.home cardtreeName).target)
    (hbeside : loc ≠ (sharedSlot c.home cardtreeName).temporary c.tag) :
    t'.shapeAt loc = t₁.shapeAt loc := by
  refine h.placed.elsewhere fun x hx => ?_
  rw [List.mem_singleton.mp hx]
  exact ⟨htarget, hbeside⟩

include hkeys in
/-- Between the trees after the files went and after the rows were written nothing is new. -/
theorem thinned : Thinned t₁ t' := by
  refine ⟨h.placed.kept, fun loc hnone => ?_⟩
  obtain ⟨content, -, hfile⟩ := h.cardtree_between hkeys
  have hne : loc ≠ (sharedSlot c.home cardtreeName).target := by
    rintro rfl
    rw [hnone] at hfile
    exact absurd hfile (by simp)
  by_cases hbeside : loc = (sharedSlot c.home cardtreeName).temporary c.tag
  · rw [hbeside, h.placed.temporary List.mem_cons_self]
  · rw [h.elsewhere_between hne hbeside, hnone]

include hkeys in
theorem absent_after : ∀ card ∈ affected, Absent t' (c.cardPath card.key) :=
  fun card hcard => (h.absent card hcard).mono (h.thinned hkeys)

include hkeys in
theorem elsewhere {loc : Location} (htarget : loc ≠ (sharedSlot c.home cardtreeName).target)
    (hbeside : loc ≠ (sharedSlot c.home cardtreeName).temporary c.tag)
    (hfiles : ∀ card ∈ affected, loc ≠ (cardSlot c.home card.key).target) :
    t'.shapeAt loc = t.shapeAt loc := by
  rw [h.elsewhere_between htarget hbeside]
  refine h.gone.same loc fun card hcard hr => hfiles card hcard ?_
  rw [← location_cardPath c (hkeys card hcard)]
  exact (location_of_resolve hr).symm

include hkeys in
/-- The store is not touched, so the same cards are found again. -/
theorem findCards_eq (keys : List String) :
    c.project.findCards keys t' = c.project.findCards keys t := by
  refine Project.findCards_congr (base_of_folder h.folder) (base_of_folder h.folder_after)
    (fun loc => ?_) keys
  have hout : ∀ {other : Location}, programAt c.home <+: other →
      c.home ++ Card.rootFolder :: loc ≠ other :=
    fun hbelow heq => not_below_programAt (by decide) loc (heq ▸ hbelow)
  exact h.elsewhere hkeys (hout (programAt_isPrefix_sharedSlot _)) (hout (List.prefix_append _ _))
    fun card _ => hout (programAt_isPrefix_cardSlot card.key)

/-- The rows without those of the cards can be written again, and are the same. -/
theorem written_again : (ProgramFile.cardtree c.folder
    (otherRows affected (otherRows affected rows))).write c.tag t' = .ok () t' := by
  obtain ⟨t₂, hwrite, hnil⟩ := ok_of_writeEach_cons h.placed.again
  cases hnil
  rw [otherRows_otherRows]
  exact hwrite

include hkeys in
/-- Another call does nothing. -/
theorem again {found : Option CardTree}
    (hfound : c.project.findCard? tree.card.key t = .ok found)
    (haffected : affected = (found.getD tree).cards) (hw : w.tree = t') :
    ∃ w', c.removeCards tree w = .ok [] w' ∧ w'.tree = t' := by
  subst hw
  have hsubtree : c.subtree tree w.tree = .ok affected := by
    unfold subtree Project.findCard? at *
    rw [h.findCards_eq hkeys, hfound, haffected]
    rfl
  obtain ⟨w₁, hfiles, htree⟩ := removeFiles_of_absent (h.absent_after hkeys)
  have hsteps : c.RemoveSteps tree affected _ w w₁ w.tree :=
    ⟨isThere_of_placed h.placed List.mem_cons_self, hsubtree, hfiles,
      htree.symm ▸ h.readRows_after, htree.symm ▸ h.written_again⟩
  obtain ⟨w', hremove, htree'⟩ := removeCards_of_steps hsteps
  rw [keysOfRows_otherRows] at hremove
  exact ⟨w', hremove, htree'⟩

end Taken

/-- Cards that are taken out leave no file and no row, and nothing else is different; to take them
out once more does nothing. -/
theorem takenOut_of_removeCards {found : Option CardTree} (hthere : c.isThere w.tree = .ok true)
    (hfound : c.project.findCard? tree.card.key w.tree = .ok found)
    (hkeys : ∀ card ∈ (found.getD tree).cards, '/' ∉ card.key.toList)
    (h : c.removeCards tree w = .ok keys w') :
    c.TakenOut tree (found.getD tree).cards keys w.tree w'.tree := by
  have hsubtree : c.subtree tree w.tree = .ok (found.getD tree).cards := by
    unfold subtree
    rw [hfound]
    rfl
  obtain ⟨rows, t₁, htaken, rfl⟩ := taken_of_removeCards hthere hsubtree h
  refine ⟨fun card hcard => ?_, ⟨rows, htaken.readRows_before hkeys, htaken.readRows_after,
    map_cardRow_keysOfRows _ rows⟩, fun key => mt cardRow_mem_rowsOf_iff.mp,
    htaken.placed.temporary List.mem_cons_self, fun loc => htaken.elsewhere hkeys,
    fun w₂ hw₂ => htaken.again hkeys hfound rfl hw₂⟩
  exact shapeAt_of_absent htaken.folder_after (hkeys card hcard)
    (htaken.absent_after hkeys card hcard)

/-! ## A file of rows that was edited -/

/-- A card with one below it and a card whose key begins as its does.  The file of rows has a blank
line, a line that is no row of a card, a row twice and line ends of two kinds. -/
def editedTree : FileTree :=
  ⟨[("p", .folder
      [(".calc", .folder
        [("cards", .folder [("a.lp", .file (bytesOf "")), ("aa.lp", .file (bytesOf ""))]),
          ("cardtree.lp", .file (bytesOf (cardRow "aa" ++ "\r\n\n% a\n" ++ cardRow "a" ++ "\n" ++
            cardRow "b" ++ "\r\n" ++ cardRow "a")))]),
        ("cardroot", .folder
          [("a", .folder
            [("c", .folder [("b", .folder [("index.json", .file (bytesOf "{}"))])]),
              ("index.json", .file (bytesOf "{}"))]),
            ("aa", .folder [("index.json", .file (bytesOf "{}"))])])])],
    by simp only [Node.OrderedEntries, Node.Ordered]; decide⟩

def editedCard : CardTree := .node ⟨"a", Path.ofString "/p/cardroot/a", none⟩ []

theorem takenOut_edited : ∃ found w',
    smallCorpus.isThere editedTree = .ok true ∧
      smallCorpus.project.findCard? "a" editedTree = .ok (some found) ∧
      found.cards.map Card.key = ["a", "b"] ∧
      smallCorpus.removeCards editedCard ⟨editedTree, [], []⟩ = .ok ["a", "b", "a"] w' ∧
      smallCorpus.TakenOut editedCard found.cards ["a", "b", "a"] editedTree w'.tree := by
  have hthere : smallCorpus.isThere editedTree = .ok true := by decide +kernel
  have hlook : ((smallCorpus.project.findCard? "a" editedTree).toOption.bind fun found =>
      found.map fun tree => tree.cards.map Card.key) = some ["a", "b"] := by decide +kernel
  have hends : (match smallCorpus.removeCards editedCard ⟨editedTree, [], []⟩ with
      | .ok keys _ => some keys
      | .error _ _ => none) = some ["a", "b", "a"] := by decide +kernel
  cases hfound : smallCorpus.project.findCard? "a" editedTree with
  | error f => rw [hfound] at hlook; exact absurd hlook (by simp [Except.toOption])
  | ok o =>
    rw [hfound] at hlook
    obtain ⟨found, rfl, hkeys⟩ := Option.map_eq_some_iff.mp hlook
    cases hremove : smallCorpus.removeCards editedCard ⟨editedTree, [], []⟩ with
    | error f w' => rw [hremove] at hends; exact absurd hends (by simp)
    | ok keys w' =>
      rw [hremove] at hends
      cases hends
      have hslash : ∀ card ∈ found.cards, '/' ∉ card.key.toList := by
        have hall : ∀ key ∈ found.cards.map Card.key, '/' ∉ key.toList := by
          rw [hkeys]
          decide
        exact fun card hcard => hall card.key (List.mem_map_of_mem hcard)
      have hfound' : smallCorpus.project.findCard? editedCard.card.key editedTree =
          .ok (some found) := hfound
      exact ⟨found, w', hthere, rfl, hkeys, rfl,
        takenOut_of_removeCards (w := ⟨editedTree, [], []⟩) hthere hfound' hslash hremove⟩

end CardLogic.Corpus
