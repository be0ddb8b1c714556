import CardLogic.Proofs.Program.Batch

/-!
What writing program files can do to a tree, also if it fails.

Nothing is asked of the tree before.  A batch touches the places of its files, their
temporary places, and folders that were missing on the way, whether or not all of it could
be written (`onlyFilled_writeEach`); no folder goes.  If all of it was written, every file's
place holds the text of a file of the batch that belongs there (`stands_of_writeEach`).
-/

namespace CardLogic.ProgramFile

open FileTree

/-- Between two trees only these places became different: temporary ones, those of a batch's
files, which got the text of one, and those of folders missing on a way. -/
def OnlyFilled (tag : String) (way : List String) (batch : List (ProgramFile × Slot))
    (t t' : FileTree) : Prop :=
  ∀ loc, t'.shapeAt loc ≠ t.shapeAt loc → t.shapeAt loc ≠ some .folder ∧
    ((∃ x ∈ batch, loc = x.2.temporary tag) ∨
      (∃ x ∈ batch, loc = x.2.target ∧ x.1.text.StandsIn (t'.shapeAt loc)) ∨
      (t.shapeAt loc = none ∧ t'.shapeAt loc = some .folder ∧
        ∃ pre, pre <+: way ∧ loc = landing [] pre))

variable {tag : String} {t t₁ t' : FileTree} {f : ProgramFile} {s : Slot} {way : List String}
  {batch more : List (ProgramFile × Slot)}

namespace OnlyFilled

theorem refl (tag : String) (way : List String) (batch : List (ProgramFile × Slot))
    (t : FileTree) : OnlyFilled tag way batch t t :=
  fun _ h => absurd rfl h

theorem kept (h : OnlyFilled tag way batch t t') {loc : Location}
    (hloc : t.shapeAt loc = some .folder) : t'.shapeAt loc = some .folder := by
  by_contra hne
  exact (h loc (by rw [hloc]; exact hne)).1 hloc

theorem mono (hsub : ∀ x ∈ batch, x ∈ more) (h : OnlyFilled tag way batch t t') :
    OnlyFilled tag way more t t' := by
  intro loc hloc
  obtain ⟨hfolder, ⟨x, hx, htemporary⟩ | ⟨x, hx, htarget⟩ | hmade⟩ := h loc hloc
  · exact ⟨hfolder, Or.inl ⟨x, hsub x hx, htemporary⟩⟩
  · exact ⟨hfolder, Or.inr (Or.inl ⟨x, hsub x hx, htarget⟩)⟩
  · exact ⟨hfolder, Or.inr (Or.inr hmade)⟩

theorem trans (h : OnlyFilled tag way batch t t₁) (h' : OnlyFilled tag way batch t₁ t') :
    OnlyFilled tag way batch t t' := by
  intro loc hloc
  by_cases hfirst : t₁.shapeAt loc = t.shapeAt loc
  · rw [← hfirst] at hloc ⊢
    exact h' loc hloc
  obtain ⟨hfolder, hcases⟩ := h loc hfirst
  refine ⟨hfolder, ?_⟩
  by_cases hsecond : t'.shapeAt loc = t₁.shapeAt loc
  · rw [hsecond]
    exact hcases
  obtain ⟨hfolder₁, htemporary | htarget | ⟨hnone, -⟩⟩ := h' loc hsecond
  · exact Or.inl htemporary
  · exact Or.inr (Or.inl htarget)
  · -- Nothing stood there in between, so what changed first was a temporary place.
    rcases hcases with htemporary | ⟨x, -, -, hfile⟩ | ⟨-, hmade, -⟩
    · exact Or.inl htemporary
    · rw [hnone] at hfile
      exact absurd hfile.2 (by simp)
    · exact absurd hmade hfolder₁

theorem of_madeAlong (h : MadeAlong way t t') : OnlyFilled tag way batch t t' := by
  intro loc hloc
  obtain ⟨hnone, hmade⟩ := h.exists_prefix hloc
  refine ⟨?_, Or.inr (Or.inr ⟨hnone, hmade⟩)⟩
  rw [hnone]
  simp

end OnlyFilled

/-! ## One file -/

/-- Where the folder is there, a file is placed, or else at most its temporary place is
different. -/
theorem onlyFilled_write_of_slot (hslot : HasSlot t f s) :
    OnlyFilled tag way [(f, s)] t (after (f.write tag) t) := by
  have honly : ∀ {t' : FileTree} {sh : Option Shape}, Begins tag t f s →
      t'.shapeAt = Function.update t.shapeAt (s.temporary tag) sh →
        OnlyFilled tag way [(f, s)] t t' := by
    intro t' sh hbegins hshape loc hloc
    by_cases htemporary : loc = s.temporary tag
    · subst htemporary
      exact ⟨hbegins.temporary, Or.inl ⟨(f, s), by simp, rfl⟩⟩
    · rw [hshape] at hloc
      exact absurd (Function.update_of_ne htemporary _ _) hloc
  have hends := write_ends tag hslot
  unfold after
  generalize f.write tag t = r at hends
  cases hends with
  | notBegun => exact OnlyFilled.refl _ _ _ _
  | notEncoded begins _ shape => exact honly begins shape
  | notMoved begins _ _ shape => exact honly begins shape
  | written room shape =>
    intro loc hloc
    by_cases htarget : loc = s.target
    · subst htarget
      refine ⟨room.target, Or.inr (Or.inl ⟨(f, s), by simp, rfl, room.whole, ?_⟩)⟩
      rw [shape, put_target]
    · by_cases htemporary : loc = s.temporary tag
      · subst htemporary
        exact ⟨room.temporary, Or.inl ⟨(f, s), by simp, rfl⟩⟩
      · rw [shape] at hloc
        exact absurd (put_of_ne htarget htemporary) hloc

theorem onlyFilled_write (h : Leads f s) (hway : f.path.parent.segments <+: way) (t : FileTree) :
    OnlyFilled tag way [(f, s)] t (after (f.write tag) t) := by
  rcases write_cases tag h t with ⟨e, t₁, hmakes, hwrite⟩ | ⟨t₁, -, hmade, hslot, hwrite, -⟩
  · have hmade := (Disk.madeAlong_after f.path.parent t).mono hway
    unfold after at hmade ⊢
    rw [hmakes] at hmade
    rw [hwrite]
    exact .of_madeAlong hmade
  · have hafter : after (f.write tag) t = after (f.write tag) t₁ := by
      unfold after
      rw [hwrite]
    rw [hafter]
    exact (OnlyFilled.of_madeAlong (hmade.mono hway)).trans (onlyFilled_write_of_slot hslot)

theorem stands_of_write (h : Leads f s) (hwrite : f.write tag t = .ok () t') :
    f.text.StandsIn (t'.shapeAt s.target) := by
  rcases write_cases tag h t with ⟨e, t₁, -, herror⟩ | ⟨t₁, -, -, hslot, hsame, -⟩
  · rw [hwrite] at herror
    exact absurd herror (by simp)
  · obtain ⟨hroom, hshape⟩ := ok_of_write hslot (hsame ▸ hwrite)
    rw [hshape, put_target]
    exact ⟨hroom.whole, rfl⟩

/-! ## A batch -/

theorem writeEach_cons (tag : String) (f : ProgramFile) (files : List ProgramFile) (t : FileTree) :
    (writeEach tag (f :: files) t).2 = (writeEach tag files (after (f.write tag) t)).2 := by
  rw [writeEach]
  unfold after
  cases f.write tag t <;> rfl

/-- A batch fills its places and no others, even if some of it cannot be written. -/
theorem onlyFilled_writeEach (hleads : ∀ x ∈ batch, Leads x.1 x.2)
    (hway : ∀ x ∈ batch, x.1.path.parent.segments <+: way) (t : FileTree) :
    OnlyFilled tag way batch t (writeEach tag (batch.map Prod.fst) t).2 := by
  induction batch generalizing t with
  | nil => exact OnlyFilled.refl _ _ _ _
  | cons x batch ih =>
    obtain ⟨f, s⟩ := x
    have hfirst : OnlyFilled tag way [(f, s)] t (after (f.write tag) t) :=
      onlyFilled_write (hleads _ List.mem_cons_self) (hway _ List.mem_cons_self) t
    have hrest := ih (fun y hy => hleads y (List.mem_cons_of_mem _ hy))
      (fun y hy => hway y (List.mem_cons_of_mem _ hy)) (after (f.write tag) t)
    rw [List.map_cons, writeEach_cons]
    refine (hfirst.mono fun y hy => ?_).trans (hrest.mono fun y hy => List.mem_cons_of_mem _ hy)
    rw [List.mem_singleton.mp hy]
    exact List.mem_cons_self

theorem ok_of_writeEach_cons {files : List ProgramFile}
    (h : writeEach tag (f :: files) t = ([], t')) :
    ∃ t₁, f.write tag t = .ok () t₁ ∧ writeEach tag files t₁ = ([], t') := by
  rw [writeEach] at h
  cases hwrite : f.write tag t with
  | error e t₁ => rw [hwrite] at h; exact absurd (congrArg Prod.fst h) (by simp)
  | ok u t₁ => rw [hwrite] at h; exact ⟨t₁, rfl, h⟩

theorem ok_of_writeEach_append {files others : List ProgramFile}
    (h : writeEach tag (files ++ others) t = ([], t')) :
    ∃ t₁, writeEach tag files t = ([], t₁) ∧ writeEach tag others t₁ = ([], t') := by
  induction files generalizing t with
  | nil => exact ⟨t, rfl, h⟩
  | cons f files ih =>
    obtain ⟨t₁, hwrite, hrest⟩ := ok_of_writeEach_cons h
    obtain ⟨t₂, hfiles, hothers⟩ := ih hrest
    refine ⟨t₂, ?_, hothers⟩
    rw [writeEach, hwrite]
    exact hfiles

/-- In every place of a batch that was written stands a file of the batch.  Of several for
one place it is one of them. -/
theorem stands_of_writeEach (hleads : ∀ x ∈ batch, Leads x.1 x.2)
    (hway : ∀ x ∈ batch, x.1.path.parent.segments <+: way)
    (htemporary : ∀ x ∈ batch, ∀ y ∈ batch, x.2.temporary tag ≠ y.2.target)
    (h : writeEach tag (batch.map Prod.fst) t = ([], t')) :
    ∀ x ∈ batch, ∃ y ∈ batch, y.2 = x.2 ∧ y.1.text.StandsIn (t'.shapeAt x.2.target) := by
  induction batch generalizing t with
  | nil => exact fun x hx => absurd hx (by simp)
  | cons first batch ih =>
    obtain ⟨f, s⟩ := first
    obtain ⟨t₁, hwrite, hrest⟩ := ok_of_writeEach_cons h
    have hleads' : ∀ y ∈ batch, Leads y.1 y.2 := fun y hy => hleads y (List.mem_cons_of_mem _ hy)
    have hway' : ∀ y ∈ batch, y.1.path.parent.segments <+: way :=
      fun y hy => hway y (List.mem_cons_of_mem _ hy)
    intro x hx
    rcases List.mem_cons.mp hx with rfl | hx
    · have hstands := stands_of_write (hleads _ List.mem_cons_self) hwrite
      by_cases hsame : t'.shapeAt s.target = t₁.shapeAt s.target
      · exact ⟨(f, s), List.mem_cons_self, rfl, hsame ▸ hstands⟩
      · -- A later file of the batch came to the same place.
        have honly : OnlyFilled tag way batch t₁ _ := onlyFilled_writeEach hleads' hway' t₁
        rw [hrest] at honly
        obtain ⟨-, ⟨y, hy, heq⟩ | ⟨y, hy, heq, hfile⟩ | ⟨hnone, -⟩⟩ := honly _ hsame
        · exact absurd heq.symm
            (htemporary y (List.mem_cons_of_mem _ hy) _ List.mem_cons_self)
        · exact ⟨y, List.mem_cons_of_mem _ hy, (Slot.target_inj heq).symm, hfile⟩
        · rw [hstands.2] at hnone
          exact absurd hnone (by simp)
    · obtain ⟨y, hy, hslot, hstands⟩ := ih hleads' hway'
        (fun y hy z hz => htemporary y (List.mem_cons_of_mem _ hy) z (List.mem_cons_of_mem _ hz))
        hrest x hx
      exact ⟨y, List.mem_cons_of_mem _ hy, hslot, hstands⟩

end CardLogic.ProgramFile
