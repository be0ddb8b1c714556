import CardLogic.Proofs.Program.Filling

/-!
Which files writing can touch.

A file that is written may need folders, and while it is written it has another name.  Neither
counts here: what matters is which files are different afterwards, be it that they are new, have
other content or are gone.  Writing a file concerns the file at its place and, if one was left
behind by a writer of the same tag, the temporary file beside it, which is gone then
(`confined_write`).  A temporary file that was not there is left behind only if the text of the
file cannot be encoded, and then it is empty (`file_of_temporary`).  So a batch touches the places
of its files, whatever these are (`confined_writeEach`); nothing is asked of the tree or of the way
to a place.
-/

namespace CardLogic

namespace FileTree

/-- Between two trees no file is new or has other content but at some places, or is an empty one at
some places of temporary files, and none is gone but from these; all folders are there still. -/
structure Confined (places temporaries : Location → Prop) (t t' : FileTree) : Prop where
  written : ∀ loc content, t'.shapeAt loc = some (.file content) →
    t.shapeAt loc ≠ some (.file content) →
      places loc ∨ (temporaries loc ∧ content = ByteArray.empty)
  lost : ∀ loc content, t.shapeAt loc = some (.file content) →
    t'.shapeAt loc ≠ some (.file content) → places loc ∨ temporaries loc
  kept : ∀ loc, t.shapeAt loc = some .folder → t'.shapeAt loc = some .folder

namespace Confined

variable {places temporaries more moreTemporaries : Location → Prop} {t t₁ t' : FileTree}

theorem refl (places temporaries : Location → Prop) (t : FileTree) :
    Confined places temporaries t t :=
  ⟨fun _ _ h hne => absurd h hne, fun _ _ h hne => absurd h hne, fun _ h => h⟩

theorem trans (h : Confined places temporaries t t₁) (h' : Confined places temporaries t₁ t') :
    Confined places temporaries t t' := by
  refine ⟨fun loc content hfile hne => ?_, fun loc content hfile hne => ?_,
    fun loc hloc => h'.kept loc (h.kept loc hloc)⟩
  · by_cases hbetween : t₁.shapeAt loc = some (.file content)
    · exact h.written loc content hbetween hne
    · exact h'.written loc content hfile hbetween
  · by_cases hbetween : t₁.shapeAt loc = some (.file content)
    · exact h'.lost loc content hbetween hne
    · exact h.lost loc content hfile hbetween

theorem mono (h : Confined places temporaries t t') (hplaces : ∀ loc, places loc → more loc)
    (htemporaries : ∀ loc, temporaries loc → more loc ∨ moreTemporaries loc) :
    Confined more moreTemporaries t t' := by
  refine ⟨fun loc content hfile hne => ?_, fun loc content hfile hne => ?_, h.kept⟩
  · rcases h.written loc content hfile hne with hplace | ⟨htemporary, hempty⟩
    · exact Or.inl (hplaces loc hplace)
    · exact (htemporaries loc htemporary).imp_right fun hmore => ⟨hmore, hempty⟩
  · rcases h.lost loc content hfile hne with hplace | htemporary
    · exact Or.inl (hplaces loc hplace)
    · exact htemporaries loc htemporary

theorem of_madeAlong {segs : List String} (h : MadeAlong segs t t') :
    Confined places temporaries t t' := by
  refine ⟨fun loc content hfile hne => absurd (h.file hfile) hne,
    fun loc content hfile hne => ?_, fun loc hloc => ?_⟩
  · have hnone := (h loc fun hsame => hne (hsame.trans hfile)).1
    rw [hfile] at hnone
    exact absurd hnone (by simp)
  · by_contra hne
    have hnone := (h loc fun hsame => hne (hsame.trans hloc)).1
    rw [hloc] at hnone
    exact absurd hnone (by simp)

end Confined

end FileTree

namespace ProgramFile

open FileTree

variable {tag : String} {t t' : FileTree} {f : ProgramFile} {s : Slot}
  {places temporaries : Location → Prop}

/-! ## One file -/

/-- A temporary file that is there afterwards was there before, or is the empty one of a file whose
text cannot be written. -/
theorem file_of_temporary (h : Leads f s) {content : ByteArray}
    (hfile : (after (f.write tag) t).shapeAt (s.temporary tag) = some (.file content)) :
    t.shapeAt (s.temporary tag) = some (.file content) ∨
      (f.text.isWhole = false ∧ content = ByteArray.empty) := by
  unfold after at hfile
  rcases write_cases tag h t with ⟨e, t₁, hmakes, hwrite⟩ | ⟨t₁, -, hmade, -, hwrite, hends⟩
  · have hmade := Disk.madeAlong_after f.path.parent t
    unfold after at hmade
    rw [hmakes] at hmade
    rw [hwrite] at hfile
    exact Or.inl (hmade.file hfile)
  · rw [hwrite] at hfile
    generalize f.write tag t₁ = r at hends hfile
    cases hends with
    | notBegun => exact Or.inl (hmade.file hfile)
    | notEncoded _ text shape =>
      have hhalf := Text.isWhole_eq_false text
      dsimp only at hfile
      rw [shape, Function.update_self, bytesOf_of_half hhalf] at hfile
      cases hfile
      exact Or.inr ⟨hhalf, rfl⟩
    | notMoved _ _ _ shape =>
      dsimp only at hfile
      rw [shape, Function.update_self] at hfile
      exact absurd hfile (by simp)
    | written _ shape =>
      dsimp only at hfile
      rw [shape, put_temporary] at hfile
      exact absurd hfile (by simp)

theorem confined_write (h : Leads f s) (t : FileTree) :
    Confined (· = s.target) (· = s.temporary tag) t (after (f.write tag) t) := by
  have hfilled : OnlyFilled tag f.path.parent.segments [(f, s)] t (after (f.write tag) t) :=
    onlyFilled_write h List.prefix_rfl t
  refine ⟨fun loc content hfile hne => ?_, fun loc content hfile hne => ?_,
    fun loc => hfilled.kept⟩
  · obtain ⟨-, ⟨x, hx, hwhere⟩ | ⟨x, hx, hwhere, -⟩ | ⟨-, hfolder, -⟩⟩ :=
      hfilled loc fun hsame => hne (hsame.symm.trans hfile)
    · rw [List.mem_singleton.mp hx] at hwhere
      subst hwhere
      exact Or.inr ⟨rfl, ((file_of_temporary h hfile).resolve_left hne).2⟩
    · rw [List.mem_singleton.mp hx] at hwhere
      exact Or.inl hwhere
    · rw [hfile] at hfolder
      exact absurd hfolder (by simp)
  · obtain ⟨-, ⟨x, hx, hwhere⟩ | ⟨x, hx, hwhere, -⟩ | ⟨hnone, -⟩⟩ :=
      hfilled loc fun hsame => hne (hsame.trans hfile)
    · rw [List.mem_singleton.mp hx] at hwhere
      exact Or.inr hwhere
    · rw [List.mem_singleton.mp hx] at hwhere
      exact Or.inl hwhere
    · rw [hfile] at hnone
      exact absurd hnone (by simp)

/-! ## A batch -/

theorem confined_writeEach {files : List ProgramFile}
    (h : ∀ f ∈ files, (∃ s, Leads f s) ∧ places f.path.location ∧
      temporaries (f.temporaryPath tag).location)
    (t : FileTree) : Confined places temporaries t (writeEach tag files t).2 := by
  induction files generalizing t with
  | nil => exact Confined.refl _ _ _
  | cons f files ih =>
    obtain ⟨⟨s, hleads⟩, hplace, htemporary⟩ := h f List.mem_cons_self
    rw [hleads.location] at hplace
    rw [hleads.location_temporary] at htemporary
    rw [writeEach_cons]
    have hfirst : Confined places temporaries t (after (f.write tag) t) := by
      refine (confined_write hleads t).mono (fun loc hloc => ?_) fun loc hloc => Or.inr ?_
      · rw [hloc]
        exact hplace
      · rw [hloc]
        exact htemporary
    exact hfirst.trans (ih (fun g hg => h g (List.mem_cons_of_mem _ hg)) _)

end ProgramFile

end CardLogic
