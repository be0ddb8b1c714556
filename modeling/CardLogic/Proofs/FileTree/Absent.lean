import CardLogic.Proofs.FileTree.Effects

/-!
Paths with nothing at them.

A file that was removed is absent, and so is one whose folder is missing; removing it again does
nothing (`Absent.removeIfThere`).  It stays absent as long as no entry is new and no folder goes
(`Absent.mono`).
-/

namespace CardLogic.FileTree

/-- Nothing is at the path, or a folder on the way to it is missing. -/
def Absent (t : FileTree) (p : Path) : Prop :=
  (∃ loc, t.resolve p = .ok loc ∧ t.shapeAt loc = none) ∨ t.resolve p = .error .missing

/-- Between two trees folders stayed, and nothing is new. -/
structure Thinned (t t' : FileTree) : Prop where
  folders : ∀ loc, t.shapeAt loc = some .folder → t'.shapeAt loc = some .folder
  nothing : ∀ loc, t.shapeAt loc = none → t'.shapeAt loc = none

variable {t t₁ t' : FileTree} {p : Path} {loc : Location}

namespace Thinned

theorem trans (h : Thinned t t₁) (h' : Thinned t₁ t') : Thinned t t' :=
  ⟨fun loc hloc => h'.folders loc (h.folders loc hloc),
    fun loc hloc => h'.nothing loc (h.nothing loc hloc)⟩

theorem walk_missing (h : Thinned t t') {here : Location} {segs : List String}
    (hwalk : t.walk here segs = .error .missing) : t'.walk here segs = .error .missing := by
  induction segs generalizing here with
  | nil => exact absurd hwalk (by simp [walk])
  | cons s rest ih =>
    cases hshape : t.shapeAt here with
    | none =>
      rw [walk, shapeAt_eq_none.mp (h.nothing here hshape)]
    | some sh =>
      cases sh with
      | file content =>
        rw [walk, shapeAt_eq_file.mp hshape] at hwalk
        exact absurd hwalk (by simp)
      | folder =>
        rw [walk_cons_of_folder hshape] at hwalk
        rw [walk_cons_of_folder (h.folders here hshape)]
        by_cases hup : s = Path.up
        · rw [if_pos hup] at hwalk ⊢
          exact ih hwalk
        · by_cases hlong : nameLimit < s.utf8ByteSize
          · rw [if_neg hup, if_pos hlong] at hwalk
            exact absurd hwalk (by simp)
          · rw [if_neg hup, if_neg hlong] at hwalk ⊢
            exact ih hwalk

end Thinned

theorem resolve_eq_missing :
    t.resolve p = .error .missing ↔ p.Fits ∧ t.walk [] p.segments = .error .missing := by
  unfold resolve
  cases hnull : p.hasNull with
  | true =>
    rw [if_pos rfl]
    exact ⟨fun h => absurd h (by simp), fun h => absurd h.1.hasNull (by simp [hnull])⟩
  | false =>
    rw [if_neg (by simp)]
    by_cases hlong : pathLimit < p.toString.utf8ByteSize
    · rw [if_pos hlong]
      refine ⟨fun h => absurd h (by simp), fun h => ?_⟩
      have := h.1.short
      omega
    · rw [if_neg hlong]
      exact ⟨fun h => ⟨⟨hnull, by omega⟩, h⟩, fun h => h.2⟩

theorem thinned_of_removeIfThere {b : Bool} (h : Disk.removeIfThere p t = .ok b t') :
    Thinned t t' := by
  obtain ⟨hgone, hsame⟩ := Disk.gone_of_removeIfThere h
  refine ⟨fun loc hloc => ?_, fun loc hloc => ?_⟩
  · rw [hsame loc fun hr => (hgone loc hr).1 hloc, hloc]
  · by_cases hr : t.resolve p = .ok loc
    · exact (hgone loc hr).2
    · rw [hsame loc hr, hloc]

namespace Absent

theorem mono (h : Absent t p) (hthin : Thinned t t') : Absent t' p := by
  rcases h with ⟨loc, hr, hnone⟩ | hmissing
  · exact Or.inl ⟨loc, resolve_of_kept hthin.folders hr, hthin.nothing loc hnone⟩
  · obtain ⟨hfits, hwalk⟩ := resolve_eq_missing.mp hmissing
    exact Or.inr (resolve_eq_missing.mpr ⟨hfits, hthin.walk_missing hwalk⟩)

theorem removeFile (h : Absent t p) : t.removeFile p = .error ⟨.missing, p, none⟩ := by
  unfold FileTree.removeFile locate
  rcases h with ⟨loc, hr, hnone⟩ | hmissing
  · rw [hr]
    dsimp only
    rw [shapeAt_eq_none.mp hnone]
  · rw [hmissing]

theorem removeIfThere (h : Absent t p) : Disk.removeIfThere p t = .ok false t := by
  rw [Disk.removeIfThere_eq, h.removeFile]
  exact if_pos rfl

theorem of_missing {e : FileError} (h : t.removeFile p = .error e) (hmissing : e.fault = .missing) :
    Absent t p := by
  cases hr : t.resolve p with
  | ok loc => exact Or.inl ⟨loc, hr, Disk.shapeAt_of_missing hr h hmissing⟩
  | error f =>
    unfold FileTree.removeFile locate at h
    rw [hr] at h
    cases h
    exact Or.inr (hr.trans (congrArg _ hmissing))

/-- What was to be removed is absent then. -/
theorem of_removeIfThere {b : Bool} (h : Disk.removeIfThere p t = .ok b t') : Absent t' p := by
  obtain ⟨hgone, -⟩ := Disk.gone_of_removeIfThere h
  have hthin := thinned_of_removeIfThere h
  rw [Disk.removeIfThere_eq] at h
  cases hremove : t.removeFile p with
  | error e =>
    rw [hremove] at h
    dsimp only at h
    by_cases hmissing : e.fault = .missing
    · exact (of_missing hremove hmissing).mono hthin
    · rw [if_neg hmissing] at h
      exact absurd h (by simp)
  | ok t₁ =>
    cases hr : t.resolve p with
    | ok loc => exact Or.inl ⟨loc, resolve_of_kept hthin.folders hr, (hgone loc hr).2⟩
    | error f =>
      unfold FileTree.removeFile locate at hremove
      rw [hr] at hremove
      exact absurd hremove (by simp)

theorem fits (h : Absent t p) : p.Fits := by
  rcases h with ⟨loc, hr, -⟩ | hmissing
  · exact (resolve_eq_ok.mp hr).1
  · exact (resolve_eq_missing.mp hmissing).1

/-- Nothing stands below a folder where a name is absent. -/
theorem shapeAt_child {n : String} {home : Location} (h : Absent t (p.child n))
    (hp : FolderAt t p home) (hup : n ≠ Path.up) : t.shapeAt (home ++ [n]) = none := by
  rcases h with ⟨loc, hr, hnone⟩ | hmissing
  · obtain ⟨a, ha, -, rfl⟩ := FolderAt.of_resolve_child hup hr
    cases ha.location_eq.symm.trans hp.location_eq
    exact hnone
  · have hwalk := (resolve_eq_missing.mp hmissing).2
    rw [show (p.child n).segments = p.segments ++ [n] from rfl,
      walk_append_of_ok (resolve_eq_ok.mp hp.resolve).2, walk_cons_of_folder hp.shape,
      if_neg hup] at hwalk
    by_cases hlong : nameLimit < n.utf8ByteSize
    · rw [if_pos hlong] at hwalk
      exact absurd hwalk (by simp)
    · rw [if_neg hlong, walk_nil] at hwalk
      exact absurd hwalk (by simp)

/-- The same two levels below a folder, whether or not the folder in between is there. -/
theorem shapeAt_child_child {m n : String} {home : Location}
    (h : Absent t ((p.child m).child n)) (hp : FolderAt t p home) (hm : m ≠ Path.up)
    (hshort : m.utf8ByteSize ≤ nameLimit) (hup : n ≠ Path.up) :
    t.shapeAt (home ++ [m] ++ [n]) = none := by
  by_contra hthere
  have hfolder := shapeAt_above (List.cons_ne_nil n []) hthere
  exact hthere (h.shapeAt_child ⟨hp.resolve_child hm hshort h.fits.of_child, hfolder⟩ hup)

end Absent

end CardLogic.FileTree
