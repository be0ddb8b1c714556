import CardLogic.Proofs.Corpus.Places
import CardLogic.Proofs.Corpus.Run
import CardLogic.Proofs.Program.Failing

/-!
Cards taken out of a corpus, when that breaks off.

The files of the cards go one by one before the rows are read and written, and none of them
comes back when a later step fails.  So the files of the cards up to the one that could not be
removed are gone, or those of all cards if it was the rows that failed, and that is all
(`brokenOff_of_removeCards`).  The rows of these cards are still there.
-/

namespace CardLogic.Corpus

open FileTree ProgramFile

/-- Between two trees the files of some cards went, and nothing else happened. -/
structure FilesGone (c : Corpus) (cards : List Card) (t t' : FileTree) : Prop where
  gone : ∀ card ∈ cards, ∀ loc, t.resolve (c.cardPath card.key) = .ok loc →
    t.shapeAt loc ≠ some .folder ∧ t'.shapeAt loc = none
  same : ∀ loc, (∀ card ∈ cards, t.resolve (c.cardPath card.key) ≠ .ok loc) →
    t'.shapeAt loc = t.shapeAt loc

/-- The step in which taking a card out of a corpus broke off: the reason, the trees before and
after, and the cards whose files were removed by then. -/
inductive BrokenOff (c : Corpus) (tree : CardTree) (f : Failure) (t t' : FileTree) :
    List Card → Prop
  | asking {e : FileError} (fails : c.isThere t = .error e) (why : f = .file e) :
      BrokenOff c tree f t t' []
  | finding (fails : c.subtree tree t = .error f) : BrokenOff c tree f t t' []
  | removing {done rest : List Card} {card : Card} {e : FileError}
      (found : c.subtree tree t = .ok (done ++ card :: rest))
      (fails : Disk.removeIfThere (c.cardPath card.key) t' = .error e t') (why : f = .file e) :
      BrokenOff c tree f t t' done
  | reading {affected : List Card} (found : c.subtree tree t = .ok affected)
      (fails : readRows t' c.cardtreePath = .error f) : BrokenOff c tree f t t' affected
  | writing {affected : List Card} {rows : List String} {e : FileError}
      (found : c.subtree tree t = .ok affected) (read : readRows t' c.cardtreePath = .ok rows)
      (fails : (ProgramFile.cardtree c.folder (otherRows affected rows)).write c.tag t' =
        .error e t') (why : f = .file e) : BrokenOff c tree f t t' affected

variable {c : Corpus} {cards : List Card} {card : Card} {t t₁ t' : FileTree} {w w' : Workspace}
  {f : Failure}

namespace FilesGone

theorem refl (c : Corpus) (t : FileTree) : c.FilesGone [] t t :=
  ⟨by simp, fun _ _ => rfl⟩

theorem folder_iff (h : c.FilesGone cards t t') (loc : Location) :
    t'.shapeAt loc = some .folder ↔ t.shapeAt loc = some .folder := by
  by_cases hloc : ∃ card ∈ cards, t.resolve (c.cardPath card.key) = .ok loc
  · obtain ⟨card, hcard, hr⟩ := hloc
    obtain ⟨hleaf, hnone⟩ := h.gone card hcard loc hr
    rw [hnone]
    exact ⟨fun h => absurd h (by simp), fun h => absurd h hleaf⟩
  · rw [h.same loc fun card hcard hr => hloc ⟨card, hcard, hr⟩]

/-- Paths lead where they led before. -/
theorem resolve_iff (h : c.FilesGone cards t t') {p : Path} {loc : Location} :
    t'.resolve p = .ok loc ↔ t.resolve p = .ok loc :=
  ⟨resolve_of_kept fun loc => (h.folder_iff loc).mp,
    resolve_of_kept fun loc => (h.folder_iff loc).mpr⟩

theorem cons (hfirst : c.FilesGone [card] t t₁) (h : c.FilesGone cards t₁ t') :
    c.FilesGone (card :: cards) t t' := by
  refine ⟨fun other hother loc hr => ?_, fun loc hloc => ?_⟩
  · by_cases hlater : ∃ later ∈ cards, t.resolve (c.cardPath later.key) = .ok loc
    · obtain ⟨later, hmem, hr'⟩ := hlater
      obtain ⟨hleaf, hnone⟩ := h.gone later hmem loc (hfirst.resolve_iff.mpr hr')
      exact ⟨fun hfolder => hleaf ((hfirst.folder_iff loc).mpr hfolder), hnone⟩
    · -- No later card leads here, so it is the first one.
      have hsame : other = card := by
        rcases List.mem_cons.mp hother with hsame | hmem
        · exact hsame
        · exact absurd ⟨other, hmem, hr⟩ hlater
      subst hsame
      obtain ⟨hleaf, hnone⟩ := hfirst.gone other List.mem_cons_self loc hr
      rw [h.same loc fun later hmem hr' => hlater ⟨later, hmem, hfirst.resolve_iff.mp hr'⟩]
      exact ⟨hleaf, hnone⟩
  · have hrest : ∀ later ∈ cards, t₁.resolve (c.cardPath later.key) ≠ .ok loc :=
      fun later hmem hr => hloc later (List.mem_cons_of_mem card hmem) (hfirst.resolve_iff.mp hr)
    rw [h.same loc hrest]
    apply hfirst.same
    intro other hother
    rw [List.mem_singleton.mp hother]
    exact hloc card List.mem_cons_self

/-- The file of rows is none of the files that went, for the keys that cards have. -/
theorem cardtree_eq (h : c.FilesGone cards t t') (hkeys : ∀ card ∈ cards, '/' ∉ card.key.toList) :
    t'.shapeAt c.cardtreePath.location = t.shapeAt c.cardtreePath.location := by
  apply h.same
  intro card hcard hr
  have hwhere := location_of_resolve hr
  rw [location_cardPath c (hkeys card hcard), location_cardtreePath] at hwhere
  exact cardSlot_ne_sharedSlot _ _ (Slot.target_inj hwhere)

end FilesGone

/-! ## Files -/

theorem filesGone_of_removeIfThere {b : Bool}
    (h : Disk.removeIfThere (c.cardPath card.key) t = .ok b t') : c.FilesGone [card] t t' := by
  obtain ⟨hgone, hsame⟩ := Disk.gone_of_removeIfThere h
  refine ⟨fun other hother loc hr => ?_, fun loc hloc => ?_⟩
  · rw [List.mem_singleton.mp hother] at hr
    exact hgone loc hr
  · exact hsame loc (hloc card List.mem_cons_self)

theorem filesGone_of_removeFiles (h : c.removeFiles cards w = .ok () w') :
    c.FilesGone cards w.tree w'.tree := by
  induction cards generalizing w with
  | nil =>
    cases h
    exact FilesGone.refl c _
  | cons card cards ih =>
    obtain ⟨b, w₁, hremove, hrest⟩ := ok_of_removeFiles_cons h
    exact (filesGone_of_removeIfThere hremove).cons (ih hrest)

/-- Files that are files, or not there, can be removed. -/
theorem removeFiles_of_ne_folder (h : ∀ card ∈ cards, ∃ loc,
    w.tree.resolve (c.cardPath card.key) = .ok loc ∧ w.tree.shapeAt loc ≠ some .folder) :
    ∃ w', c.removeFiles cards w = .ok () w' := by
  induction cards generalizing w with
  | nil => exact ⟨w, rfl⟩
  | cons card cards ih =>
    obtain ⟨loc, hr, hleaf⟩ := h card List.mem_cons_self
    obtain ⟨b, t₁, hremove⟩ := Disk.removeIfThere_of_ne_folder hr hleaf
    have hgone := filesGone_of_removeIfThere hremove
    have hrest : ∀ w₁ : Workspace, w₁.tree = t₁ → ∃ w', c.removeFiles cards w₁ = .ok () w' := by
      intro w₁ htree
      apply ih
      intro other hother
      obtain ⟨loc', hr', hleaf'⟩ := h other (List.mem_cons_of_mem card hother)
      rw [htree]
      exact ⟨loc', hgone.resolve_iff.mpr hr',
        fun hfolder => hleaf' ((hgone.folder_iff loc').mp hfolder)⟩
    rw [removeFiles, Action.bind_of_ok (Action.disk_of_ok hremove)]
    cases b with
    | true => exact hrest { w with tree := t₁ } rfl
    | false => exact hrest { w with tree := t₁, log := w.log ++ _ } rfl

theorem error_of_removeFiles_cons (h : c.removeFiles (card :: cards) w = .error f w') :
    (∃ e, Disk.removeIfThere (c.cardPath card.key) w.tree = .error e w'.tree ∧ f = .file e) ∨
      ∃ b w₁, Disk.removeIfThere (c.cardPath card.key) w.tree = .ok b w₁.tree ∧
        c.removeFiles cards w₁ = .error f w' := by
  rw [removeFiles] at h
  rcases Action.error_of_bind h with hfirst | ⟨wasThere, w₁, hfirst, hrest⟩
  · exact Or.inl (Action.error_of_disk hfirst)
  · right
    have hremove := Action.ok_of_disk hfirst
    cases wasThere with
    | true => exact ⟨true, w₁, hremove, hrest⟩
    | false =>
      -- That there was no file is told, which does not fail.
      exact ⟨false, { w₁ with log := w₁.log ++ _ }, hremove, hrest⟩

/-- Files are removed up to the first that cannot be. -/
theorem error_of_removeFiles (h : c.removeFiles cards w = .error f w') :
    ∃ done card rest e, cards = done ++ card :: rest ∧ c.FilesGone done w.tree w'.tree ∧
      Disk.removeIfThere (c.cardPath card.key) w'.tree = .error e w'.tree ∧ f = .file e := by
  induction cards generalizing w with
  | nil => exact absurd h (by simp [removeFiles, pure, EStateM.pure])
  | cons card cards ih =>
    rcases error_of_removeFiles_cons h with ⟨e, hfails, hwhy⟩ | ⟨b, w₁, hremove, hrest⟩
    · have htree := (Disk.error_of_removeIfThere hfails).1
      rw [← htree] at hfails
      refine ⟨[], card, cards, e, rfl, ?_, hfails, hwhy⟩
      rw [htree]
      exact FilesGone.refl c _
    · obtain ⟨done, stuck, rest, e, rfl, hgone, hfails, hwhy⟩ := ih hrest
      exact ⟨card :: done, stuck, rest, e, rfl, (filesGone_of_removeIfThere hremove).cons hgone,
        hfails, hwhy⟩

/-! ## Rows -/

/-- Where there is a corpus, its folder and its file of rows are where the paths to them lead. -/
theorem cardtree_of_isThere (h : c.isThere t = .ok true) :
    FolderAt t c.folder (programAt c.home) ∧
      t.resolve c.cardtreePath = .ok (sharedSlot c.home cardtreeName).target ∧
      ∃ content, t.shapeAt (sharedSlot c.home cardtreeName).target = some (.file content) := by
  obtain ⟨loc, -, hfolder, -⟩ := file_of_isThere h
  unfold isThere at h
  rw [isFolder_eq_true.mpr ⟨loc, hfolder⟩] at h
  obtain ⟨loc', content, hr, hfile⟩ := isFile_eq_true.mp h
  cases hfolder.location_eq.symm.trans (location_folder c)
  cases (location_of_resolve hr).symm.trans (location_cardtreePath c)
  exact ⟨hfolder, hr, content, hfile⟩

/-- Rows that could not be written were not begun either. -/
theorem tree_of_cardtree_error {rows : List String} {e : FileError}
    (hthere : c.isThere t = .ok true)
    (hgone : c.FilesGone cards t t₁)
    (h : (ProgramFile.cardtree c.folder rows).write c.tag t₁ = .error e t') : t' = t₁ := by
  obtain ⟨hfolder, -, content, hfile⟩ := cardtree_of_isThere hthere
  have hslot := hasSlot_cardtree (hfolder.of_kept fun loc => (hgone.folder_iff loc).mpr) rows
  have htarget : t₁.shapeAt (sharedSlot c.home cardtreeName).target ≠ some .folder := by
    intro hfolder₁
    have hfolder₀ := (hgone.folder_iff _).mp hfolder₁
    exact absurd (hfile.symm.trans hfolder₀) (by simp)
  exact unchanged_of_write_error hslot (Text.isWhole_ofString _) htarget h

/-! ## Both -/

/-- Where taking a card out of a corpus breaks off, the files of the cards before that point are
gone and all else is as it was, so the rows still name them. -/
theorem brokenOff_of_removeCards {tree : CardTree} (h : c.removeCards tree w = .error f w') :
    ∃ done, c.BrokenOff tree f w.tree w'.tree done ∧ c.FilesGone done w.tree w'.tree ∧
      ((∀ card ∈ done, '/' ∉ card.key.toList) →
        w'.tree.shapeAt c.cardtreePath.location = w.tree.shapeAt c.cardtreePath.location) := by
  suffices hbroken : ∃ done, c.BrokenOff tree f w.tree w'.tree done ∧
      c.FilesGone done w.tree w'.tree by
    obtain ⟨done, hwhere, hgone⟩ := hbroken
    exact ⟨done, hwhere, hgone, hgone.cardtree_eq⟩
  have hends := c.removeCards_ends tree w
  rw [h] at hends
  cases hends with
  | notAsked fails => exact ⟨[], .asking fails rfl, FilesGone.refl c _⟩
  | notFound _ fails => exact ⟨[], .finding fails, FilesGone.refl c _⟩
  | fileKept _ finds fails =>
    obtain ⟨done, card, rest, e, rfl, hgone, hfails, hwhy⟩ := error_of_removeFiles fails
    exact ⟨done, .removing finds hfails hwhy, hgone⟩
  | noRows _ finds removes fails =>
    exact ⟨_, .reading finds fails, filesGone_of_removeFiles removes⟩
  | rowsKept there finds removes reads fails =>
    have hgone := filesGone_of_removeFiles removes
    have htree := tree_of_cardtree_error there hgone fails
    rw [← htree] at fails hgone reads
    exact ⟨_, .writing finds reads fails rfl, hgone⟩

/-! ## A corpus in which this happens -/

/-- A card with one below it, and a folder where the file of the second should be. -/
def stuckTree : FileTree :=
  ⟨[("p", .folder
      [(".calc", .folder
        [("cards", .folder [("a.lp", .file (bytesOf "")), ("b.lp", .folder [])]),
          ("cardtree.lp", .file (bytesOf (rowsText (["a", "b"].map cardRow))))]),
        ("cardroot", .folder [("a", .folder
          [("c", .folder [("b", .folder [("index.json", .file (bytesOf "{}"))])]),
            ("index.json", .file (bytesOf "{}"))])])])],
    by simp only [Node.OrderedEntries, Node.Ordered]; decide⟩

def stuckCard : CardTree := .node ⟨"a", Path.ofString "/p/cardroot/a", none⟩ []

theorem fails_stuck : ∃ f w',
    smallCorpus.removeCards stuckCard ⟨stuckTree, [], []⟩ = .error f w' ∧
      w'.tree = treeAfter (smallCorpus.removeCards stuckCard) stuckTree :=
  fails_treeAfter (by decide +kernel)

theorem brokenOff_stuck : ∃ f w' done,
    smallCorpus.removeCards stuckCard ⟨stuckTree, [], []⟩ = .error f w' ∧
      smallCorpus.BrokenOff stuckCard f stuckTree w'.tree done ∧
      smallCorpus.FilesGone done stuckTree w'.tree := by
  obtain ⟨f, w', hfails, -⟩ := fails_stuck
  obtain ⟨done, hwhere, hgone, -⟩ := brokenOff_of_removeCards hfails
  exact ⟨f, w', done, hfails, hwhere, hgone⟩

/-- The first card's file is gone, and the row that includes it is not. -/
theorem row_without_file :
    smallCorpus.isThere stuckTree = .ok true ∧
      ∃ f w', smallCorpus.removeCards stuckCard ⟨stuckTree, [], []⟩ = .error f w' ∧
        stuckTree.shapeAt (cardSlot ["p"] "a").target = some (.file (bytesOf "")) ∧
        w'.tree.shapeAt (cardSlot ["p"] "a").target = none ∧
        w'.tree.shapeAt smallCorpus.cardtreePath.location =
          some (.file (bytesOf (rowsText (["a", "b"].map cardRow)))) := by
  obtain ⟨f, w', hfails, hleft⟩ := fails_stuck
  refine ⟨by decide +kernel, f, w', hfails, by decide +kernel, ?_, ?_⟩
  · rw [hleft]
    decide +kernel
  · rw [hleft]
    decide +kernel

end CardLogic.Corpus
