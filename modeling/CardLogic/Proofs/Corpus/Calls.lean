import CardLogic.Proofs.Corpus.Places
import CardLogic.Proofs.Corpus.Run
import CardLogic.Proofs.Project.Known

/-!
Calls of a corpus, in any order and with anything happening to the store in between.

`Run` is about a store whose every change the corpus is told of.  Here nothing is asked of the
store and of the cards that a caller gives but what kind of keys they have, and a store
may hold a key any number of times.  What a call can have done when it came to its end is
said once (`Call.Did`), for whatever is to be shown of all calls.
-/

namespace CardLogic

namespace Corpus

open FileTree ProgramFile

inductive Call where
  /-- The corpus is written anew, or its part for a card that is asked for or has changed. -/
  | generate (scope : Option CardTree)
  | add (trees : List CardTree)
  | remove (tree : CardTree)

namespace Call

/-- What a call that comes to its end does to the tree. -/
def Does (c : Corpus) (t t' : FileTree) : Call → Prop
  | generate scope => Corpus.Does (c.generate scope) t t'
  | add trees => Corpus.Does (c.addCards trees) t t'
  | remove tree => Corpus.Does (c.removeCards tree) t t'

/-- The trees of cards that the caller gives. -/
def given : Call → List CardTree
  | generate scope => scope.toList
  | add trees => trees
  | remove tree => [tree]

/-- All keys that a call meets are of some kind. -/
structure Keys (p : Project) (P : String → Prop) (call : Call) (t : FileTree) : Prop where
  given : ∀ tree ∈ call.given, ∀ card ∈ tree.cards, P card.key
  store : p.AllKeys P t

end Call

/-- The trees that a project's corpus can come to by calls that succeed, each of some writer,
where there was no program folder.  Between them anything but that folder may change. -/
inductive ComesTo (c : Corpus) (allowed : Call → FileTree → Prop) : FileTree → Prop
  | start {t : FileTree} (noProgram : t.shapeAt c.folder.location = none) : ComesTo c allowed t
  | elsewhere {t t' : FileTree} (reached : ComesTo c allowed t)
      (same : ∀ loc, c.folder.location <+: loc → t'.shapeAt loc = t.shapeAt loc) :
      ComesTo c allowed t'
  | call {t t' : FileTree} {call : Call} {tag : String} (reached : ComesTo c allowed t)
      (htag : IsTag tag) (ok : allowed call t) (does : call.Does { c with tag := tag } t t') :
      ComesTo c allowed t'

variable {c : Corpus} {P : String → Prop} {t t₁ t' : FileTree} {w w' : Workspace}
  {cards : List Card}

/-! ## Keys -/

/-- A key that stays in one line. -/
def OneLineKey (key : String) : Prop := Text.OneLine key.toList

instance (key : String) : Decidable (OneLineKey key) :=
  inferInstanceAs (Decidable (Text.OneLine key.toList))

/-- A key that is a single segment of a path and stays in one line. -/
structure PlainKey (key : String) : Prop where
  ne_empty : key ≠ ""
  noSlash : '/' ∉ key.toList
  oneLine : Text.OneLine key.toList

instance (key : String) : Decidable (PlainKey key) :=
  decidable_of_iff (key ≠ "" ∧ '/' ∉ key.toList ∧ Text.OneLine key.toList)
    ⟨fun ⟨hne, hslash, hline⟩ => ⟨hne, hslash, hline⟩, fun h => ⟨h.ne_empty, h.noSlash, h.oneLine⟩⟩

/-- Of a tree that was found, what is given does not count. -/
theorem keys_subtree {tree : CardTree}
    (hgiven : ∀ found, c.project.findCards [tree.card.key] t = .ok found →
      found.lookup tree.card.key = none → ∀ card ∈ tree.cards, P card.key)
    (hstore : c.project.AllKeys P t) (h : c.subtree tree t = .ok cards) :
    ∀ card ∈ cards, P card.key := by
  obtain ⟨found, hfound, rfl⟩ := subtree_ok h
  cases hlookup : found.lookup tree.card.key with
  | none => exact hgiven found hfound hlookup
  | some tree' =>
    obtain ⟨before, behind, rfl, -⟩ := List.lookup_eq_some_iff.mp hlookup
    exact hstore.found _ _ hfound (tree.card.key, tree') (by simp)

theorem keys_takenIn {trees : List CardTree} {found : List (String × CardTree)}
    (hgiven : ∀ tree ∈ trees, found.lookup tree.card.key = none → ∀ card ∈ tree.cards, P card.key)
    (hfound : ∀ x ∈ found, ∀ card ∈ x.2.cards, P card.key) :
    ∀ card ∈ takenIn found trees, P card.key := by
  intro card hcard
  obtain ⟨tree', htree', hmem⟩ := CardTree.mem_listing.mp (mem_of_mem_firstOfEachKey hcard)
  obtain ⟨tree, htree, rfl⟩ := List.mem_map.mp htree'
  cases hlookup : found.lookup tree.card.key with
  | none =>
    rw [hlookup] at hmem
    exact hgiven tree htree hlookup card hmem
  | some found' =>
    rw [hlookup] at hmem
    obtain ⟨before, behind, rfl, -⟩ := List.lookup_eq_some_iff.mp hlookup
    exact hfound (tree.card.key, found') (by simp) card hmem

/-! ## Files that go -/

/-- Between two trees files of some cards went, and nothing else happened. -/
def Emptied (c : Corpus) (cards : List Card) (t t' : FileTree) : Prop :=
  ∀ loc, t'.shapeAt loc ≠ t.shapeAt loc →
    (∃ card ∈ cards, loc = (c.cardPath card.key).location) ∧ t.shapeAt loc ≠ some .folder ∧
      t'.shapeAt loc = none

theorem Emptied.mono {more : List Card} (hsub : ∀ card ∈ cards, card ∈ more)
    (h : c.Emptied cards t t') : c.Emptied more t t' := by
  intro loc hloc
  obtain ⟨⟨card, hcard, hwhere⟩, hgone⟩ := h loc hloc
  exact ⟨⟨card, hsub card hcard, hwhere⟩, hgone⟩

theorem Emptied.kept (h : c.Emptied cards t t') {loc : Location}
    (hloc : t.shapeAt loc = some .folder) : t'.shapeAt loc = some .folder := by
  by_contra hne
  exact (h loc (by rw [hloc]; exact hne)).2.1 hloc

theorem Emptied.trans (h : c.Emptied cards t t₁) (h' : c.Emptied cards t₁ t') :
    c.Emptied cards t t' := by
  intro loc hloc
  by_cases hsame : t'.shapeAt loc = t₁.shapeAt loc
  · rw [hsame] at hloc ⊢
    exact h loc hloc
  · obtain ⟨hwhere, hleaf, hnone⟩ := h' loc hsame
    exact ⟨hwhere, fun hfolder => hleaf (h.kept hfolder), hnone⟩

/-- Removing the files of cards does nothing else, also if it fails. -/
theorem emptied_removeFiles (c : Corpus) (cards : List Card) (w : Workspace) :
    c.Emptied cards w.tree (after (c.removeFiles cards) w).tree := by
  induction cards generalizing w with
  | nil => exact fun loc hloc => absurd rfl hloc
  | cons card cards ih =>
    have hfirst : c.Emptied (card :: cards) w.tree
        (after (Disk.removeIfThere (c.cardPath card.key)) w.tree) := by
      intro loc hloc
      obtain ⟨hwhere, hgone⟩ := Disk.after_removeIfThere hloc
      exact ⟨⟨card, List.mem_cons_self, hwhere⟩, hgone⟩
    rw [removeFiles]
    rcases Action.after_disk_bind (Disk.removeIfThere (c.cardPath card.key)) _ w with
      h | ⟨wasThere, w₁, hremove, h⟩
    · rw [h]
      exact hfirst
    · rw [after_of_ok hremove] at hfirst
      have hrest : ∀ w₂ : Workspace, w₂.tree = w₁.tree →
          c.Emptied (card :: cards) w₁.tree (after (c.removeFiles cards) w₂).tree := by
        intro w₂ htree
        rw [← htree]
        exact (ih w₂).mono fun other hother => List.mem_cons_of_mem card hother
      rw [h]
      cases wasThere with
      | true => exact hfirst.trans (hrest w₁ rfl)
      | false => exact hfirst.trans (hrest { w₁ with log := w₁.log ++ _ } rfl)

theorem Emptied.file (h : c.Emptied cards t t₁) {loc : Location} {content : ByteArray}
    (hfile : t₁.shapeAt loc = some (.file content)) : t.shapeAt loc = some (.file content) := by
  by_contra hne
  have hnone := (h loc fun hsame => hne (hsame.symm.trans hfile)).2.2
  rw [hfile] at hnone
  exact absurd hnone (by simp)

/-! ## The file of rows -/

theorem isRow_rowsOf (hkeys : ∀ card ∈ cards, Text.OneLine card.key.toList) {row : String}
    (hrow : row ∈ rowsOf cards) : IsRow row := by
  obtain ⟨card, hcard, rfl⟩ := List.mem_map.mp hrow
  exact isRow_cardRow (hkeys card hcard)

theorem mem_mergeRows_keys {rows : List String} {row : String} :
    row ∈ mergeRows rows (cards.map Card.key) ↔ row ∈ rows ∨ row ∈ rowsOf cards := by
  have hnew : (∃ k ∈ cards.map Card.key, row = cardRow k) ↔ row ∈ rowsOf cards := by
    simp [rowsOf, eq_comm]
  rw [mem_mergeRows, hnew]

/-- If there is a file of rows, then its lines are of some kind. -/
def RowsAre (c : Corpus) (Q : List String → Prop) (t : FileTree) : Prop :=
  ∀ content, t.shapeAt (sharedSlot c.home cardtreeName).target = some (.file content) →
    ∃ rows, linesOf? content = some rows ∧ Q rows

theorem rowsAre_of_noProgram (Q : List String → Prop)
    (h : t.shapeAt c.folder.location = none) : c.RowsAre Q t := by
  intro content hcontent
  rw [location_folder] at h
  have hnone := shapeAt_of_above_eq_none h [cardtreeName]
  exact absurd (hnone.symm.trans hcontent) (by simp)

theorem rowsAre_of_rowsText {Q : List String → Prop} {rows : List String}
    (hfile : t.shapeAt (sharedSlot c.home cardtreeName).target =
      some (.file (bytesOf (rowsText rows))))
    (hrows : ∀ row ∈ rows, IsRow row) (h : Q rows) : c.RowsAre Q t := by
  intro content hcontent
  rw [hfile] at hcontent
  cases hcontent
  exact ⟨rows, linesOf?_rowsText hrows, h⟩

theorem RowsAre.congr {Q R : List String → Prop} (h : c.RowsAre Q t)
    (hsame : ∀ loc, c.folder.location <+: loc → t'.shapeAt loc = t.shapeAt loc)
    (hQR : ∀ rows, Q rows → R rows) : c.RowsAre R t' := by
  intro content hcontent
  rw [location_folder] at hsame
  have hfile := hsame _ (programAt_isPrefix_sharedSlot cardtreeName)
  obtain ⟨rows, hrows, hQ⟩ := h content (hfile.symm.trans hcontent)
  exact ⟨rows, hrows, hQR rows hQ⟩

/-- Files of other things may come and go, if the file of rows is the one from before. -/
theorem RowsAre.of_files {Q : List String → Prop} (h : c.RowsAre Q t)
    (hsame : ∀ loc content, t₁.shapeAt loc = some (.file content) →
      t.shapeAt loc = some (.file content)) : c.RowsAre Q t₁ :=
  fun content hcontent => h content (hsame _ content hcontent)

/-- Rows that are read are among the lines of their file. -/
theorem RowsAre.of_readRows {Q : List String → Prop} {rows : List String} (h : c.RowsAre Q t)
    (hread : readRows t c.cardtreePath = .ok rows) :
    rows = [] ∨ ∃ lines, Q lines ∧ rows.Sublist lines := by
  rcases readRows_ok hread with rfl | ⟨loc, content, lines, hr, hfile, hlines, rfl⟩
  · exact Or.inl rfl
  · rw [← location_of_resolve hr, location_cardtreePath] at hfile
    obtain ⟨rows, hrows, hQ⟩ := h content hfile
    rw [hlines] at hrows
    cases hrows
    exact Or.inr ⟨lines, hQ, List.filter_sublist⟩

/-! ## What a call did -/

/-- What a call that came to its end did, if all keys it met are of some kind. -/
inductive Call.Did (c : Corpus) (P : String → Prop) (t t' : FileTree) : Call → Prop
  /-- There was no corpus to keep in step. -/
  | nothing {call : Call} (same : t' = t) : Did c P t t' call
  /-- All cards of the project were written, and the rows with them. -/
  | whole {cards : List Card} {rules : List RuleFile} {t₁ : FileTree}
      (listed : c.project.cards t = .ok cards) (keys : ∀ card ∈ cards, P card.key)
      (writable : ∀ card ∈ cards, card.isWritable = true)
      (made : MadeAlong c.cardsFolder.segments t t₁)
      (written : writeEach c.tag (cards.map c.cardFile ++ c.sharedFiles (rowsOf cards) rules) t₁ =
        ([], t')) : Did c P t t' (.generate none)
  /-- Some cards were written, and rows for them added to those there were. -/
  | merged {call : Call} {cards : List Card} {rows : List String} {t₁ : FileTree}
      (keys : ∀ card ∈ cards, P card.key) (writable : ∀ card ∈ cards, card.isWritable = true)
      (made : MadeAlong c.cardsFolder.segments t t₁)
      (read : readRows t₁ c.cardtreePath = .ok rows)
      (written : writeEach c.tag (cards.map c.cardFile ++
        [ProgramFile.cardtree c.folder (mergeRows rows (cards.map Card.key))]) t₁ = ([], t')) :
      Did c P t t' call
  /-- Files of some cards went, and then their rows. -/
  | taken {call : Call} {cards : List Card} {rows : List String} {t₁ : FileTree}
      (keys : ∀ card ∈ cards, P card.key) (emptied : c.Emptied cards t t₁)
      (read : readRows t₁ c.cardtreePath = .ok rows)
      (written : (ProgramFile.cardtree c.folder (otherRows cards rows)).write c.tag t₁ =
        .ok () t') : Did c P t t' call

theorem did_generate {scope : Option CardTree} (hkeys : (Call.generate scope).Keys c.project P t)
    (h : Does (c.generate scope) t t') : (Call.generate scope).Did c P t t' := by
  obtain ⟨w, w', paths, rfl, hgenerate, rfl⟩ := h
  obtain ⟨cards, others, t₁, ⟨hcards, hmakes, hwritable, hothers, hwrite⟩, -⟩ :=
    steps_of_generate hgenerate
  have hmade := (Disk.madeAlong_makeFolders hmakes).1
  cases scope with
  | none =>
    obtain ⟨rules, -, rfl⟩ := otherFiles_none.mp hothers
    exact .whole hcards (hkeys.store.listed cards hcards) hwritable hmade hwrite
  | some tree =>
    obtain ⟨file, hfile, rfl⟩ := otherFiles_some.mp hothers
    obtain ⟨rows, hread, rfl⟩ := extendedCardtree_ok hfile
    have hgiven : ∀ card ∈ tree.cards, P card.key := hkeys.given tree (by simp [Call.given])
    exact .merged (keys_subtree (fun _ _ _ => hgiven) hkeys.store hcards) hwritable hmade hread
      hwrite

theorem did_add {trees : List CardTree} (hkeys : (Call.add trees).Keys c.project P t)
    (h : Does (c.addCards trees) t t') : (Call.add trees).Did c P t t' := by
  obtain ⟨w, w', paths, rfl, hadd, rfl⟩ := h
  rcases isThere_or_of_addCards hadd with hthere | hsame
  · obtain ⟨found, rows, ⟨-, hfound, hwritable, hread, hwrite⟩, -⟩ :=
      steps_of_addCards hthere hadd
    have hgiven : ∀ tree ∈ trees, found.lookup tree.card.key = none →
        ∀ card ∈ tree.cards, P card.key := fun tree htree _ => hkeys.given tree htree
    exact .merged (keys_takenIn hgiven (hkeys.store.found _ _ hfound)) hwritable (.refl _ _) hread
      hwrite
  · exact .nothing hsame

theorem did_remove {tree : CardTree} (hkeys : (Call.remove tree).Keys c.project P t)
    (h : Does (c.removeCards tree) t t') : (Call.remove tree).Did c P t t' := by
  obtain ⟨w, w', keys, rfl, hremove, rfl⟩ := h
  rcases isThere_or_of_removeCards hremove with hthere | hsame
  · obtain ⟨affected, rows, w₁, ⟨-, haffected, hfiles, hread, hwrite⟩, -⟩ :=
      steps_of_removeCards hthere hremove
    have hemptied := c.emptied_removeFiles affected w
    rw [after_of_ok hfiles] at hemptied
    have hgiven : ∀ card ∈ tree.cards, P card.key := hkeys.given tree (by simp [Call.given])
    exact .taken (keys_subtree (fun _ _ _ => hgiven) hkeys.store haffected) hemptied hread hwrite
  · exact .nothing hsame

theorem Call.Does.did {call : Call} (hkeys : call.Keys c.project P t) (h : call.Does c t t') :
    call.Did c P t t' := by
  cases call with
  | generate scope => exact did_generate hkeys h
  | add trees => exact did_add hkeys h
  | remove tree => exact did_remove hkeys h

end Corpus

end CardLogic
