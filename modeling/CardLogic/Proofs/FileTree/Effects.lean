import CardLogic.Proofs.FileTree.Folders

/-!
What steps can do to a tree, also if they fail.

Where a walk ends is known from its segments alone, if it comes to its end
(`landing_of_walk`), so the one place that a step can change is known before the tree is
asked.  `after` is the state that steps leave behind, done or failed: making the folders
of a path makes only these (`Disk.madeAlong_after`), and removing a file takes away only
what stands at its path (`Disk.after_removeIfThere`).
-/

namespace CardLogic

namespace FileTree

/-- Where segments lead from a location, if all on the way are folders. -/
def landing : Location → List String → Location
  | here, [] => here
  | here, s :: rest =>
    if s = Path.up then landing here.dropLast rest else landing (here ++ [s]) rest

theorem landing_append (here : Location) (a b : List String) :
    landing here (a ++ b) = landing (landing here a) b := by
  induction a generalizing here with
  | nil => rfl
  | cons s rest ih =>
    rw [List.cons_append, landing, landing]
    by_cases hup : s = Path.up
    · rw [if_pos hup, if_pos hup, ih]
    · rw [if_neg hup, if_neg hup, ih]

theorem landing_of_not_mem (here : Location) {segs : List String} (h : Path.up ∉ segs) :
    landing here segs = here ++ segs := by
  induction segs generalizing here with
  | nil => rw [landing, List.append_nil]
  | cons s rest ih =>
    rw [List.mem_cons, not_or] at h
    rw [landing, if_neg fun he => h.1 he.symm, ih _ h.2, List.append_assoc]
    rfl

theorem landing_of_walk {t : FileTree} {here loc : Location} {segs : List String}
    (h : t.walk here segs = .ok loc) : landing here segs = loc := by
  induction segs generalizing here with
  | nil => exact Except.ok.inj h
  | cons s rest ih =>
    rw [walk_cons_of_folder (shapeAt_of_walk_cons h)] at h
    rw [landing]
    by_cases hup : s = Path.up
    · rw [if_pos hup] at h ⊢
      exact ih h
    · by_cases hlong : nameLimit < s.utf8ByteSize
      · rw [if_neg hup, if_pos hlong] at h
        exact absurd h (by simp)
      · rw [if_neg hup, if_neg hlong] at h
        rw [if_neg hup]
        exact ih h

end FileTree

/-- Where a path leads from the top of any tree, if all on the way are folders. -/
def Path.location (p : Path) : Location := FileTree.landing [] p.segments

theorem Path.location_child (p : Path) {n : String} (hup : n ≠ Path.up) :
    (p.child n).location = p.location ++ [n] := by
  unfold Path.location Path.child
  rw [FileTree.landing_append, FileTree.landing, if_neg hup, FileTree.landing]

namespace FileTree

variable {t t' : FileTree} {p : Path} {loc : Location}

theorem location_of_resolve (h : t.resolve p = .ok loc) : p.location = loc :=
  landing_of_walk (resolve_eq_ok.mp h).2

theorem FolderAt.location_eq (h : FolderAt t p loc) : p.location = loc :=
  location_of_resolve h.resolve

theorem MadeAlong.exists_prefix {segs : List String} (h : MadeAlong segs t t')
    (hloc : t'.shapeAt loc ≠ t.shapeAt loc) :
    t.shapeAt loc = none ∧ t'.shapeAt loc = some .folder ∧
      ∃ pre, pre <+: segs ∧ loc = landing [] pre := by
  obtain ⟨hold, hnew, pre, hpre, hwalk⟩ := h loc hloc
  exact ⟨hold, hnew, pre, hpre, (landing_of_walk hwalk).symm⟩

/-- A file that is there after folders were made was there before. -/
theorem MadeAlong.file {segs : List String} (h : MadeAlong segs t t') {content : ByteArray}
    (hfile : t'.shapeAt loc = some (.file content)) : t.shapeAt loc = some (.file content) := by
  by_contra hne
  have hfolder := (h loc fun hsame => hne (hsame.symm.trans hfile)).2.1
  rw [hfile] at hfolder
  exact absurd hfolder (by simp)

end FileTree

/-! ## What is left behind -/

/-- The state that steps leave, whether they come to their end or fail. -/
def after {ε σ α : Type} (x : EStateM ε σ α) (s : σ) : σ :=
  match x s with
  | .ok _ s' => s'
  | .error _ s' => s'

section After

variable {ε σ α β : Type} {x : EStateM ε σ α} {s s' : σ}

theorem after_of_ok {a : α} (h : x s = .ok a s') : after x s = s' := by
  unfold after
  rw [h]

theorem after_of_error {e : ε} (h : x s = .error e s') : after x s = s' := by
  unfold after
  rw [h]

/-- Two parts leave what the first one leaves, if it fails, or else what the second one
leaves. -/
theorem after_bind (x : EStateM ε σ α) (f : α → EStateM ε σ β) (s : σ) :
    after (x >>= f) s = after x s ∨
      ∃ a s₁, x s = .ok a s₁ ∧ after (x >>= f) s = after (f a) s₁ := by
  cases hx : x s with
  | error e s₁ =>
    left
    unfold after
    simp only [bind, EStateM.bind, hx]
  | ok a s₁ =>
    right
    refine ⟨a, s₁, rfl, ?_⟩
    unfold after
    simp only [bind, EStateM.bind, hx]

theorem after_bind_pure (x : EStateM ε σ α) (f : α → β) (s : σ) :
    after (x >>= fun a => pure (f a)) s = after x s := by
  unfold after
  simp only [bind, EStateM.bind]
  cases x s <;> rfl

end After

namespace Disk

open FileTree

theorem madeAlong_after_makeFolderOr {p : Path} {onMissing : FileError → Disk Unit} {t : FileTree}
    (h : ∀ e, MadeAlong p.segments t (after (onMissing e) t)) :
    MadeAlong p.segments t (after (makeFolderOr p onMissing) t) := by
  unfold after
  rw [makeFolderOr_eq]
  cases hm : t.makeFolder p with
  | ok t₁ => exact (madeAlong_makeFolder hm).1
  | error e =>
    dsimp only
    by_cases hmiss : e.fault = .missing
    · rw [if_pos hmiss]
      exact h e
    · rw [if_neg hmiss, acceptFolder_eq]
      cases t.isFolder p with
      | error e' => exact MadeAlong.refl _ _
      | ok b => cases b <;> exact MadeAlong.refl _ _

theorem madeAlong_after_makeFoldersAt (anchor : Anchor) (segs : List String) (t : FileTree) :
    MadeAlong segs.reverse t (after (makeFoldersAt anchor segs) t) := by
  induction segs generalizing t with
  | nil => exact madeAlong_after_makeFolderOr fun e => MadeAlong.refl _ _
  | cons s above ih =>
    have hpre : above.reverse <+: (s :: above).reverse := by simp
    rw [makeFoldersAt]
    refine madeAlong_after_makeFolderOr fun e => ?_
    rcases after_bind (makeFoldersAt anchor above)
      (fun _ => makeFolderOr ⟨anchor, (s :: above).reverse⟩ throw) t with h | ⟨_, t₁, h₁, h⟩
    · rw [h]
      exact (ih t).mono hpre
    · rw [h]
      have habove := ih t
      rw [after_of_ok h₁] at habove
      exact (habove.mono hpre).trans (madeAlong_after_makeFolderOr fun _ => MadeAlong.refl _ _)

/-- Whether or not the folders of a path could all be made, nothing else happened. -/
theorem madeAlong_after (p : Path) (t : FileTree) :
    MadeAlong p.segments t (after (makeFolders p) t) := by
  have h := madeAlong_after_makeFoldersAt p.anchor p.segments.reverse t
  rw [List.reverse_reverse] at h
  exact h

/-! ## Files that go -/

variable {t t' : FileTree} {p : Path}

theorem removeFile_ok {a : Location} {n : String} (hr : t.resolve p = .ok (a ++ [n]))
    (ha : t.shapeAt a = some .folder) (h : t.removeFile p = .ok t') :
    t.shapeAt (a ++ [n]) ≠ some .folder ∧
      t'.shapeAt = Function.update t.shapeAt (a ++ [n]) none := by
  unfold removeFile locate at h
  rw [hr] at h
  dsimp only at h
  cases hfind : t.find (a ++ [n]) with
  | none => rw [hfind] at h; exact absurd h (by simp)
  | some d =>
    rw [hfind] at h
    cases d with
    | folder es => exact absurd h (by simp)
    | file content =>
      cases h
      have hleaf : t.shapeAt (a ++ [n]) ≠ some .folder := by
        rw [shapeAt_eq_file.mpr hfind]
        simp
      exact ⟨hleaf, shapeAt_remove_leaf ha hleaf⟩

/-- A file that was removed stood where its path leads. -/
theorem shapeAt_of_removeFile (h : t.removeFile p = .ok t') :
    t.shapeAt p.location ≠ some .folder ∧
      t'.shapeAt = Function.update t.shapeAt p.location none := by
  cases hr : t.resolve p with
  | error f => unfold removeFile locate at h; rw [hr] at h; exact absurd h (by simp)
  | ok loc =>
    rw [location_of_resolve hr]
    rcases walk_lands t.shapeAt_nil (resolve_eq_ok.mp hr).2 with hfolder | ⟨a, n, rfl, ha⟩
    · obtain ⟨es, hes⟩ := shapeAt_eq_folder.mp hfolder
      unfold removeFile locate at h
      rw [hr] at h
      dsimp only at h
      rw [hes] at h
      exact absurd h (by simp)
    · exact removeFile_ok hr ha h

theorem removeIfThere_eq (p : Path) (t : FileTree) :
    removeIfThere p t =
      match t.removeFile p with
      | .ok t' => .ok true t'
      | .error e => if e.fault = .missing then .ok false t else .error e t := by
  unfold removeIfThere
  rw [catch_eq]
  simp only [bind, EStateM.bind, step]
  cases t.removeFile p with
  | ok t' => rfl
  | error e =>
    by_cases hmissing : e.fault = .missing
    · simp only [if_pos hmissing]
      rfl
    · simp only [if_neg hmissing]
      rfl

theorem shapeAt_of_missing {loc : Location} (hr : t.resolve p = .ok loc)
    {e : FileError} (h : t.removeFile p = .error e) (hmissing : e.fault = .missing) :
    t.shapeAt loc = none := by
  unfold removeFile locate at h
  rw [hr] at h
  dsimp only at h
  cases hfind : t.find loc with
  | none => exact shapeAt_eq_none.mpr hfind
  | some d =>
    rw [hfind] at h
    cases d with
    | file c => exact absurd h (by simp)
    | folder es =>
      cases h
      exact absurd hmissing (by simp)

/-- Where no folder stands, what is there can be removed. -/
theorem removeIfThere_of_ne_folder {loc : Location} (hr : t.resolve p = .ok loc)
    (hleaf : t.shapeAt loc ≠ some .folder) : ∃ b t', removeIfThere p t = .ok b t' := by
  rw [removeIfThere_eq]
  unfold removeFile locate
  rw [hr]
  dsimp only
  cases hfind : t.find loc with
  | none => exact ⟨false, t, rfl⟩
  | some d =>
    cases d with
    | file c => exact ⟨true, t.remove loc, rfl⟩
    | folder es => exact absurd (shapeAt_eq_folder.mpr ⟨es, hfind⟩) hleaf

/-- Whether or not there was a file, there is none then. -/
theorem removeIfThere_ok {a : Location} {n : String} (hr : t.resolve p = .ok (a ++ [n]))
    (ha : t.shapeAt a = some .folder) {b : Bool} (h : removeIfThere p t = .ok b t') :
    t.shapeAt (a ++ [n]) ≠ some .folder ∧
      t'.shapeAt = Function.update t.shapeAt (a ++ [n]) none := by
  rw [removeIfThere_eq] at h
  cases hremove : t.removeFile p with
  | ok t₁ =>
    rw [hremove] at h
    cases h
    exact removeFile_ok hr ha hremove
  | error e =>
    rw [hremove] at h
    dsimp only at h
    by_cases hmissing : e.fault = .missing
    · rw [if_pos hmissing] at h
      cases h
      have hnone := shapeAt_of_missing hr hremove hmissing
      refine ⟨by rw [hnone]; simp, ?_⟩
      rw [← hnone, Function.update_eq_self]
    · rw [if_neg hmissing] at h
      exact absurd h (by simp)

/-- A file that is no longer there is gone from where its path leads, and nothing else is. -/
theorem gone_of_removeIfThere {b : Bool} (h : removeIfThere p t = .ok b t') :
    (∀ loc, t.resolve p = .ok loc → t.shapeAt loc ≠ some .folder ∧ t'.shapeAt loc = none) ∧
      ∀ loc, t.resolve p ≠ .ok loc → t'.shapeAt loc = t.shapeAt loc := by
  rw [removeIfThere_eq] at h
  cases hremove : t.removeFile p with
  | ok t₁ =>
    rw [hremove] at h
    cases h
    obtain ⟨hleaf, hshape⟩ := shapeAt_of_removeFile hremove
    have hwhere : t.resolve p = .ok p.location := by
      cases hr : t.resolve p with
      | ok loc => rw [location_of_resolve hr]
      | error f =>
        unfold removeFile locate at hremove
        rw [hr] at hremove
        exact absurd hremove (by simp)
    refine ⟨fun loc hr => ?_, fun loc hr => ?_⟩
    · cases hwhere.symm.trans hr
      rw [hshape]
      exact ⟨hleaf, Function.update_self _ _ _⟩
    · have hne : loc ≠ p.location := fun heq => hr (heq ▸ hwhere)
      rw [hshape, Function.update_of_ne hne]
  | error e =>
    rw [hremove] at h
    dsimp only at h
    by_cases hmissing : e.fault = .missing
    · rw [if_pos hmissing] at h
      cases h
      refine ⟨fun loc hr => ?_, fun _ _ => rfl⟩
      rw [shapeAt_of_missing hr hremove hmissing]
      exact ⟨by simp, rfl⟩
    · rw [if_neg hmissing] at h
      exact absurd h (by simp)

theorem error_of_removeIfThere {e : FileError} (h : removeIfThere p t = .error e t') :
    t' = t ∧ t.removeFile p = .error e := by
  rw [removeIfThere_eq] at h
  cases hremove : t.removeFile p with
  | ok t₁ => rw [hremove] at h; exact absurd h (by simp)
  | error e' =>
    rw [hremove] at h
    dsimp only at h
    by_cases hmissing : e'.fault = .missing
    · rw [if_pos hmissing] at h
      exact absurd h (by simp)
    · rw [if_neg hmissing] at h
      cases h
      exact ⟨rfl, rfl⟩

/-- Removing a file changes at most what stands where its path leads, and no folder. -/
theorem after_removeIfThere {loc : Location}
    (hloc : (after (removeIfThere p) t).shapeAt loc ≠ t.shapeAt loc) :
    loc = p.location ∧ t.shapeAt loc ≠ some .folder ∧
      (after (removeIfThere p) t).shapeAt loc = none := by
  unfold after at hloc ⊢
  rw [removeIfThere_eq] at hloc ⊢
  cases hremove : t.removeFile p with
  | error e =>
    rw [hremove] at hloc
    dsimp only at hloc
    by_cases hmissing : e.fault = .missing
    · rw [if_pos hmissing] at hloc
      exact absurd rfl hloc
    · rw [if_neg hmissing] at hloc
      exact absurd rfl hloc
  | ok t₁ =>
    obtain ⟨hleaf, hshape⟩ := shapeAt_of_removeFile hremove
    rw [hremove] at hloc
    dsimp only at hloc ⊢
    rw [hshape] at hloc ⊢
    by_cases heq : loc = p.location
    · subst heq
      exact ⟨rfl, hleaf, Function.update_self _ _ _⟩
    · exact absurd (Function.update_of_ne heq _ _) hloc

end Disk

end CardLogic
