import CardLogic.Proofs.Program.Filling

/-!
Why program files are not written.

A step at a path fails for a reason of the operating system, or the path has a null character
(`FileError.ByPath`).  So a file is not written for such a reason, or because its text cannot be
encoded (`error_of_write`), and this is so of each file of a batch (`fault_of_writeEach`).  In a
folder that is there, the one thing that keeps a file with a text that can be encoded from a place
that is no folder's is that it cannot be begun under its temporary name, and then nothing was done
(`unchanged_of_write_error`).
-/

namespace CardLogic

open FileTree

/-- The operating system reported the error, or it is about a null character in the path. -/
def FileError.ByPath (p : Path) (e : FileError) : Prop :=
  e.isSystem = true ∨ (e.fault = .nullCharacter ∧ p.hasNull = true)

variable {t t' : FileTree} {p : Path} {e : FileError}

theorem FileError.ByPath.mono {q : Path} (h : e.ByPath p)
    (hnull : p.hasNull = true → q.hasNull = true) : e.ByPath q :=
  h.imp_right fun hfault => ⟨hfault.1, hnull hfault.2⟩

/-! ## Single steps -/

namespace FileTree

theorem isSystem_of_walk {here : Location} {segs : List String} {f : Fault}
    (h : t.walk here segs = .error f) : f.isSystem = true := by
  induction segs generalizing here with
  | nil => exact absurd h (by simp [walk])
  | cons s rest ih =>
    rw [walk] at h
    cases hfind : t.find here with
    | none => rw [hfind] at h; cases h; rfl
    | some d =>
      rw [hfind] at h
      cases d with
      | file c => cases h; rfl
      | folder es =>
        dsimp only at h
        by_cases hup : s = Path.up
        · rw [if_pos hup] at h
          exact ih h
        · rw [if_neg hup] at h
          by_cases hlong : nameLimit < s.utf8ByteSize
          · rw [if_pos hlong] at h
            cases h
            rfl
          · rw [if_neg hlong] at h
            exact ih h

theorem byPath_of_locate (h : t.locate p = .error e) : e.ByPath p := by
  unfold locate at h
  cases hr : t.resolve p with
  | ok loc => rw [hr] at h; exact absurd h (by simp)
  | error f =>
    rw [hr] at h
    cases h
    unfold resolve at hr
    by_cases hnull : p.hasNull = true
    · rw [if_pos hnull] at hr
      cases hr
      exact Or.inr ⟨rfl, hnull⟩
    · rw [if_neg hnull] at hr
      by_cases hlong : pathLimit < p.toString.utf8ByteSize
      · rw [if_pos hlong] at hr
        cases hr
        exact Or.inl rfl
      · rw [if_neg hlong] at hr
        exact Or.inl (isSystem_of_walk hr)

theorem byPath_of_writeBytes {content : ByteArray} (h : t.writeBytes p content = .error e) :
    e.ByPath p := by
  unfold writeBytes at h
  cases hloc : t.locate p with
  | error e' => rw [hloc] at h; cases h; exact byPath_of_locate hloc
  | ok loc =>
    rw [hloc] at h
    dsimp only at h
    cases hfind : t.find loc with
    | none => rw [hfind] at h; exact absurd h (by simp)
    | some d =>
      rw [hfind] at h
      cases d with
      | file c => exact absurd h (by simp)
      | folder es => cases h; exact Or.inl rfl

theorem byPath_of_makeFolder (h : t.makeFolder p = .error e) : e.ByPath p := by
  unfold makeFolder at h
  cases hloc : t.locate p with
  | error e' => rw [hloc] at h; cases h; exact byPath_of_locate hloc
  | ok loc =>
    rw [hloc] at h
    dsimp only at h
    cases hfind : t.find loc with
    | none => rw [hfind] at h; exact absurd h (by simp)
    | some d => rw [hfind] at h; cases h; exact Or.inl rfl

theorem isSystem_of_isFolder (h : t.isFolder p = .error e) : e.isSystem = true := by
  unfold isFolder entry? at h
  cases hr : t.resolve p with
  | ok loc => rw [hr] at h; exact absurd h (by simp [Except.map])
  | error f =>
    rw [hr] at h
    cases f with
    | nameTooLong => cases h; rfl
    | _ => exact absurd h (by simp [Except.map])

end FileTree

/-! ## Folders on the way -/

namespace Disk

theorem byPath_of_makeFolderOr {onMissing : FileError → Disk Unit}
    (hmissing : ∀ e₁ e t', e₁.ByPath p → onMissing e₁ t = .error e t' → e.ByPath p)
    (h : makeFolderOr p onMissing t = .error e t') : e.ByPath p := by
  rw [makeFolderOr_eq] at h
  cases hmake : t.makeFolder p with
  | ok t₁ => rw [hmake] at h; exact absurd h (by simp)
  | error e₁ =>
    have hfault := byPath_of_makeFolder hmake
    rw [hmake] at h
    dsimp only at h
    by_cases hm : e₁.fault = .missing
    · rw [if_pos hm] at h
      exact hmissing e₁ e t' hfault h
    · rw [if_neg hm, acceptFolder_eq] at h
      cases hf : t.isFolder p with
      | error e₂ =>
        rw [hf] at h
        cases h
        exact Or.inl (isSystem_of_isFolder hf)
      | ok b =>
        rw [hf] at h
        cases b with
        | true => exact absurd h (by simp)
        | false =>
          cases h
          exact hfault

theorem byPath_of_throw {e₁ : FileError} (hfault : e₁.ByPath p)
    (h : (throw e₁ : Disk Unit) t = .error e t') : e.ByPath p := by
  rw [throw_eq] at h
  cases h
  exact hfault

theorem byPath_of_makeFoldersAt {anchor : Anchor} {above : List String}
    (h : makeFoldersAt anchor above t = .error e t') : e.ByPath ⟨anchor, above.reverse⟩ := by
  induction above generalizing t t' e with
  | nil => exact byPath_of_makeFolderOr (fun _ _ _ hf ht => byPath_of_throw hf ht) h
  | cons s above ih =>
    rw [makeFoldersAt] at h
    refine byPath_of_makeFolderOr (fun e₁ e₂ t₂ _ hmissing => ?_) h
    simp only [bind, EStateM.bind] at hmissing
    cases hfirst : makeFoldersAt anchor above t with
    | error e₃ t₁ =>
      rw [hfirst] at hmissing
      cases hmissing
      refine (ih hfirst).mono fun hnull => ?_
      unfold Path.hasNull at hnull ⊢
      rw [List.reverse_cons, List.any_append, hnull, Bool.true_or]
    | ok u t₁ =>
      rw [hfirst] at hmissing
      exact byPath_of_makeFolderOr (fun _ _ _ hf ht => byPath_of_throw hf ht) hmissing

theorem byPath_of_makeFolders (h : makeFolders p t = .error e t') : e.ByPath p := by
  have hat := byPath_of_makeFoldersAt h
  rwa [List.reverse_reverse] at hat

end Disk

namespace ProgramFile

variable {tag : String} {f : ProgramFile} {s : Slot} {batch : List (ProgramFile × Slot)}

/-! ## One file -/

theorem hasNull_of_parent (h : f.path.parent.hasNull = true) : f.path.hasNull = true := by
  obtain ⟨s, hs, hnull⟩ := List.any_eq_true.mp h
  exact List.any_eq_true.mpr ⟨s, List.dropLast_subset _ hs, hnull⟩

/-- A tag brings no null character into the temporary path. -/
theorem hasNull_of_temporaryPath (htag : '\x00' ∉ tag.toList) (h : Leads f s)
    (hnull : (f.temporaryPath tag).hasNull = true) : f.path.hasNull = true := by
  have hbegin : '\x00' ∉ ".".toList := by decide
  have hmiddle : '\x00' ∉ ".tmp-".toList := by decide
  rw [h.temporaryPath] at hnull
  unfold Path.hasNull Path.child at hnull
  rw [List.any_append, Bool.or_eq_true] at hnull
  rcases hnull with hparent | hname
  · exact hasNull_of_parent hparent
  · have hmem : '\x00' ∈ s.name.toList := by
      simpa [temporaryName, hbegin, hmiddle, htag] using hname
    refine List.any_eq_true.mpr ⟨s.name, ?_, by simpa using hmem⟩
    rw [h.path]
    exact List.mem_append_right _ (List.mem_singleton.mpr rfl)

/-- A file is not written for a reason of the operating system, or there is a null character in
its path or a half in its text. -/
theorem error_of_write (htag : '\x00' ∉ tag.toList) (h : Leads f s)
    (hwrite : f.write tag t = .error e t') :
    e.ByPath f.path ∨ ∃ halves, f.text.halves? = some halves ∧ e.fault = .notEncodable halves := by
  rcases write_cases tag h t with ⟨e', t₁, hmakes, herror⟩ | ⟨t₁, -, -, -, hsame, hends⟩
  · rw [hwrite] at herror
    cases herror
    exact Or.inl ((Disk.byPath_of_makeFolders hmakes).mono hasNull_of_parent)
  · rw [← hsame, hwrite] at hends
    cases hends with
    | notBegun error =>
      exact Or.inl ((byPath_of_writeBytes error).mono (hasNull_of_temporaryPath htag h))
    | notEncoded _ text _ => exact Or.inr ⟨_, text, rfl⟩
    | notMoved => exact Or.inl (Or.inl rfl)

/-- Where nothing but a folder above or a file can be in the way, a file that is not written changes
nothing. -/
theorem unchanged_of_write_error (hslot : HasSlot t f s) (hwhole : f.text.isWhole = true)
    (htarget : t.shapeAt s.target ≠ some .folder) (hwrite : f.write tag t = .error e t') :
    t' = t := by
  have hends := write_ends tag hslot
  rw [hwrite] at hends
  cases hends with
  | notBegun => rfl
  | notEncoded _ text _ =>
    rw [Text.halves?_eq_none.mpr hwhole] at text
    exact absurd text (by simp)
  | notMoved _ _ target _ => exact absurd target htarget

/-! ## A batch -/

/-- Every failure a batch tells is that of one of its files. -/
theorem exists_error_of_writeEach {files : List ProgramFile} :
    ∀ x ∈ (writeEach tag files t).1, x.1 ∈ files ∧ ∃ t₁ t₂, x.1.write tag t₁ = .error x.2 t₂ := by
  induction files generalizing t with
  | nil => exact fun x hx => absurd hx (by simp [writeEach])
  | cons f files ih =>
    intro x hx
    rw [writeEach] at hx
    cases hwrite : f.write tag t with
    | ok u t₁ =>
      rw [hwrite] at hx
      exact ⟨List.mem_cons_of_mem _ (ih x hx).1, (ih x hx).2⟩
    | error e t₁ =>
      rw [hwrite] at hx
      rcases List.mem_cons.mp hx with rfl | hx
      · exact ⟨List.mem_cons_self, t, t₁, hwrite⟩
      · exact ⟨List.mem_cons_of_mem _ (ih x hx).1, (ih x hx).2⟩

/-- What a batch fails for, besides the operating system, is a null character in a path or a half
in a text. -/
theorem fault_of_writeEach {files : List ProgramFile} (htag : '\x00' ∉ tag.toList)
    (h : ∀ f ∈ files, ∃ s, Leads f s) :
    ∀ x ∈ (writeEach tag files t).1, x.1 ∈ files ∧ (x.2.ByPath x.1.path ∨
      ∃ halves, x.1.text.halves? = some halves ∧ x.2.fault = .notEncodable halves) := by
  intro x hx
  obtain ⟨hmem, t₁, t₂, hwrite⟩ := exists_error_of_writeEach x hx
  obtain ⟨s, hleads⟩ := h x.1 hmem
  exact ⟨hmem, error_of_write htag hleads hwrite⟩

end ProgramFile

end CardLogic
