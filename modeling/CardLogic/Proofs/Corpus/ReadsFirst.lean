import CardLogic.Proofs.Corpus.Confined
import CardLogic.Proofs.Program.Failing

/-!
Generations and new cards, when they fail.

All that is read is read before the first file is written.  So a failure that is not one of
the writing itself finds the tree as it was, but for the folders of the program, which a
generation makes before it asks which rows or rule files there are (`madeAlong_of_generate`,
`error_of_addCards`).
-/

namespace CardLogic

/-- Files were not written, and all failures are told together; or the text of one of them cannot
be encoded, and that is told alone. -/
def Failure.OfWriting : Failure → Prop
  | .notWritten _ _ => True
  | .file e => ∃ halves, e.fault = .notEncodable halves
  | _ => False

namespace Corpus

open FileTree ProgramFile

variable {c : Corpus} {scope : Option CardTree} {cards : List Card} {others : List ProgramFile}
  {t t₁ t' : FileTree} {w w' : Workspace} {f : Failure}

/-! ## Writing -/

theorem null_not_mem_tag (htag : IsTag c.tag) : '\x00' ∉ c.tag.toList :=
  fun hmem => absurd (htag _ hmem) (by decide)

/-- Where the folders are there, no path of a batch has a null character. -/
theorem hasNull_of_mem_batch {home : Location}
    (hfolder : FolderAt t c.cardsFolder (cardsAt home)) (hkeys : ∀ card ∈ cards, LegalName card.key)
    (hothers : ∀ f ∈ others, c.IsShared f) :
    ∀ x ∈ c.batch home cards others, x.1.path.hasNull = false := by
  intro x hx
  have hslot := hasSlot_batch hfolder hkeys hothers x hx
  have hname : '\x00' ∉ x.2.name.toList := by
    rcases mem_batch.mp hx with ⟨card, hcard, rfl⟩ | ⟨f, hf, rfl⟩
    · exact not_mem_cardName (hkeys card hcard).no_null (by decide)
    · have hshared : ∀ n ∈ sharedNames, '\x00' ∉ n.toList := by decide
      exact hshared _ (path_sharedSlot (hothers f hf)).1
  rw [hslot.path, ← Path.below_singleton]
  exact Path.hasNull_below hslot.folder.fits.hasNull fun n hn => List.mem_singleton.mp hn ▸ hname

/-- A batch that fails does so in the writing, or for a null character in a path. -/
theorem ofWriting_or_null_of_writeAll {files : List ProgramFile} (htag : IsTag c.tag)
    (hleads : ∀ g ∈ files, ∃ s, Leads g s) (h : writeAll c.tag files w = .error f w') :
    f.OfWriting ∨ ∃ g ∈ files, g.path.hasNull = true ∧
      ∃ e, f = .file e ∧ e.fault = .nullCharacter := by
  rcases error_of_writeAll h with ⟨failed, rfl⟩ | ⟨x, hx, hsystem, rfl⟩
  · exact Or.inl trivial
  obtain ⟨hmem, (hpath | ⟨hfault, hnull⟩) | ⟨halves, -, hfault⟩⟩ :=
    fault_of_writeEach (null_not_mem_tag htag) hleads x hx
  · rw [hsystem] at hpath
    exact absurd hpath (by simp)
  · exact Or.inr ⟨x.1, hmem, hnull, x.2, rfl, hfault⟩
  · exact Or.inl ⟨halves, hfault⟩

/-- Files of cards with legal keys fail to be written all together, or one alone for its text. -/
theorem ofWriting_of_writeAll {home : Location} (htag : IsTag c.tag)
    (hfolder : FolderAt w.tree c.cardsFolder (cardsAt home))
    (hkeys : ∀ card ∈ cards, LegalName card.key) (hothers : ∀ f ∈ others, c.IsShared f)
    (h : writeAll c.tag (cards.map c.cardFile ++ others) w = .error f w') : f.OfWriting := by
  rw [← map_fst_batch c home] at h
  have hleads : ∀ g ∈ (c.batch home cards others).map Prod.fst, ∃ s, Leads g s := by
    intro g hg
    obtain ⟨y, hy, rfl⟩ := List.mem_map.mp hg
    exact ⟨y.2, (hasSlot_batch hfolder hkeys hothers y hy).leads⟩
  refine (ofWriting_or_null_of_writeAll htag hleads h).resolve_right fun hnull => ?_
  obtain ⟨g, hg, hnull, -⟩ := hnull
  obtain ⟨y, hy, rfl⟩ := List.mem_map.mp hg
  rw [hasNull_of_mem_batch hfolder hkeys hothers y hy] at hnull
  exact absurd hnull (by simp)

theorem isShared_otherFiles (h : c.otherFiles scope cards t = .ok others) :
    ∀ f ∈ others, c.IsShared f := by
  cases scope with
  | none =>
    obtain ⟨rules, -, rfl⟩ := otherFiles_none.mp h
    exact isShared_sharedFiles c _ rules
  | some tree =>
    obtain ⟨file, hfile, rfl⟩ := otherFiles_some.mp h
    obtain ⟨rows, -, rfl⟩ := extendedCardtree_ok hfile
    exact isShared_cardtree c _

/-! ## Generations -/

/-- A generation that fails before it writes has made folders and nothing else. -/
theorem madeAlong_of_generate (htag : IsTag c.tag)
    (hkeys : ∀ cards, c.cardsInScope scope w.tree = .ok cards → ∀ card ∈ cards, LegalName card.key)
    (h : c.generate scope w = .error f w') (hf : ¬ f.OfWriting) :
    MadeAlong c.cardsFolder.segments w.tree w'.tree := by
  have hends := c.generate_ends scope w
  rw [h] at hends
  cases hends with
  | notListed => exact MadeAlong.refl _ _
  | noFolder _ fails => exact after_of_error fails ▸ Disk.madeAlong_after c.cardsFolder w.tree
  | noText _ makes => exact (Disk.madeAlong_makeFolders makes).1
  | noOthers _ makes => exact (Disk.madeAlong_makeFolders makes).1
  | writing listed makes _ readOthers ends =>
    obtain ⟨-, loc, hloc⟩ := Disk.madeAlong_makeFolders makes
    obtain ⟨home, hfolder⟩ := exists_home hloc
    exact absurd (ofWriting_of_writeAll htag hfolder (hkeys _ listed)
      (isShared_otherFiles readOthers) ends) hf

/-- The folders that a generation may make before it writes: the two of the program, and where the
project's folder is missing those on the way to it. -/
def MayMake (c : Corpus) (t : FileTree) (loc : Location) : Prop :=
  loc = c.folder.location ∨ loc = c.cardsFolder.location ∨
    (¬ ∃ home, FolderAt t c.project.base home) ∧
      ∃ pre, pre <+: c.project.base.segments ∧ loc = landing [] pre

theorem mayMake_of_madeAlong (h : MadeAlong c.cardsFolder.segments t t') {loc : Location}
    (hloc : t'.shapeAt loc ≠ t.shapeAt loc) :
    t.shapeAt loc = none ∧ t'.shapeAt loc = some .folder ∧ c.MayMake t loc := by
  obtain ⟨hnone, hfolder, pre, hpre, rfl⟩ := h.exists_prefix hloc
  refine ⟨hnone, hfolder, ?_⟩
  by_cases hbase : ∃ home, FolderAt t c.project.base home
  · obtain ⟨home, hhome⟩ := hbase
    have heq : home = c.home := hhome.location_eq.symm
    subst heq
    rcases eq_of_prefix hhome hpre hnone with hwhere | hwhere
    · exact Or.inl (hwhere.trans (location_folder c).symm)
    · exact Or.inr (Or.inl (hwhere.trans (location_cardsFolder c).symm))
  · have hlast : pre <+: c.folder.segments ++ [ProgramFile.cardsFolder] := hpre
    rcases List.prefix_concat_iff.mp hlast with rfl | hpre
    · exact Or.inr (Or.inl rfl)
    have hlast : pre <+: c.project.base.segments ++ [Project.programFolderName] := hpre
    rcases List.prefix_concat_iff.mp hlast with rfl | hpre
    · exact Or.inl rfl
    · exact Or.inr (Or.inr ⟨hbase, pre, hpre, rfl⟩)

/-- Rows that cannot be read are no text, or something is wrong with the file. -/
theorem error_of_readRows {p : Path} (h : readRows t p = .error f) :
    (∃ e, f = .file e) ∨ ∃ q, f = .notText q := by
  unfold readRows at h
  cases hfile : t.isFile p with
  | error e =>
    rw [hfile] at h
    cases h
    exact Or.inl ⟨e, rfl⟩
  | ok b =>
    rw [hfile] at h
    cases b with
    | false => cases h
    | true =>
      unfold FileTree.readText at h
      cases hread : t.readBytes p with
      | error e =>
        rw [hread] at h
        cases h
        exact Or.inl ⟨e, rfl⟩
      | ok content =>
        cases htext : textOf? content with
        | none =>
          rw [hread] at h
          dsimp only at h
          rw [htext] at h
          cases h
          exact Or.inr ⟨p, rfl⟩
        | some text =>
          rw [hread] at h
          dsimp only at h
          rw [htext] at h
          cases h

/-- That a card belongs to no project does not come up once the folders are made. -/
theorem tree_of_generate_noProject {key : String} {path : Path}
    (h : c.generate scope w = .error (.noProject key path) w') : w'.tree = w.tree := by
  have hends := c.generate_ends scope w
  rw [h] at hends
  cases hends with
  | notListed => rfl
  | noText _ _ fails =>
    obtain ⟨e, he⟩ := error_of_cardFiles fails
    cases he
  | @noOthers cards _ _ _ _ fails =>
    exfalso
    cases scope with
    | none =>
      unfold otherFiles at fails
      cases hrules : c.project.ruleFiles w'.tree with
      | error e => rw [hrules] at fails; cases fails
      | ok rules => rw [hrules] at fails; cases fails
    | some tree =>
      have hextend : c.extendedCardtree cards w'.tree = .error (.noProject key path) := by
        unfold otherFiles at fails
        cases hfile : c.extendedCardtree cards w'.tree with
        | error e => rw [hfile] at fails; cases fails; rfl
        | ok file => rw [hfile] at fails; cases fails
      rcases error_of_readRows (error_of_extendedCardtree hextend) with ⟨e, he⟩ | ⟨q, hq⟩
      · cases he
      · cases hq
  | writing _ _ _ _ ends =>
    rcases error_of_writeAll ends with ⟨failed, hfailed⟩ | ⟨x, -, -, hx⟩
    · cases hfailed
    · cases hx

/-! ## Cards that come, and calls without a corpus -/

/-- The failure is one of writing a batch for cards that a caller gives. -/
theorem error_of_addCards {trees : List CardTree} (htag : IsTag c.tag)
    (h : c.addCards trees w = .error f w') :
    w'.tree = w.tree ∨ f.OfWriting ∨ ∃ e, f = .file e ∧ e.fault = .nullCharacter := by
  have hends := c.addCards_ends trees w
  rw [h] at hends
  cases hends with
  | notAsked => exact Or.inl rfl
  | notFound => exact Or.inl rfl
  | noText => exact Or.inl rfl
  | noRows => exact Or.inl rfl
  | @writing found rows _ _ _ _ _ ends =>
    have hleads : ∀ g ∈ (takenIn found trees).map c.cardFile ++ [ProgramFile.cardtree c.folder
        (mergeRows rows ((takenIn found trees).map Card.key))], ∃ s, Leads g s := by
      intro g hg
      rcases List.mem_append.mp hg with hg | hg
      · obtain ⟨card, -, rfl⟩ := List.mem_map.mp hg
        exact c.exists_leads card
      · exact ⟨_, leads_shared (isShared_cardtree c _ g hg)⟩
    refine Or.inr ((ofWriting_or_null_of_writeAll htag hleads ends).imp_right fun hnull => ?_)
    obtain ⟨-, -, -, hnull⟩ := hnull
    exact hnull

theorem not_isThere (h : t.isFolder c.folder ≠ .ok true ∨ t.isFile c.cardtreePath ≠ .ok true) :
    c.isThere t ≠ .ok true := by
  intro hthere
  unfold isThere at hthere
  cases hfolder : t.isFolder c.folder with
  | error e => rw [hfolder] at hthere; exact absurd hthere (by simp)
  | ok b =>
    rw [hfolder] at hthere h
    cases b with
    | false => exact absurd hthere (by simp)
    | true => exact h.elim (fun h => h rfl) fun h => h hthere

/-- Where there is no corpus, no cards are taken in and none out. -/
theorem same_of_addCards {trees : List CardTree} (hthere : c.isThere w.tree ≠ .ok true) :
    (after (c.addCards trees) w).tree = w.tree := by
  exact kept_addCards (· = w.tree) rfl fun _ _ hyes => absurd hyes hthere

theorem same_of_removeCards {tree : CardTree} (hthere : c.isThere w.tree ≠ .ok true) :
    (after (c.removeCards tree) w).tree = w.tree := by
  exact kept_removeCards (· = w.tree) rfl (fun _ hyes => absurd hyes hthere)
    fun _ _ _ hyes => absurd hyes hthere

end Corpus

end CardLogic
