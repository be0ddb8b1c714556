import CardLogic.Proofs.FileTree.Walk

/-!
Making the folders of a path.

Folders come only where nothing was, and only where a beginning of the path leads
(`madeAlong_makeFolders`); the path then is a folder's.  If it was one before, nothing
happens.
-/

namespace CardLogic

namespace FileTree

/-- Folders were made on the way along some segments, and nothing else happened. -/
def MadeAlong (segs : List String) (t t' : FileTree) : Prop :=
  ∀ loc, t'.shapeAt loc ≠ t.shapeAt loc →
    t.shapeAt loc = none ∧ t'.shapeAt loc = some .folder ∧
      ∃ pre, pre <+: segs ∧ t'.walk [] pre = .ok loc

namespace MadeAlong

variable {segs more : List String} {t t₁ t₂ : FileTree}

theorem refl (segs : List String) (t : FileTree) : MadeAlong segs t t :=
  fun _ h => absurd rfl h

theorem kept (h : MadeAlong segs t t₁) {loc : Location} {sh : Shape}
    (hloc : t.shapeAt loc = some sh) : t₁.shapeAt loc = some sh := by
  by_contra hne
  have hnone := (h loc (by rw [hloc]; exact hne)).1
  rw [hloc] at hnone
  exact absurd hnone (by simp)

theorem mono (hpre : segs <+: more) (h : MadeAlong segs t t₁) : MadeAlong more t t₁ := by
  intro loc hloc
  obtain ⟨hold, hnew, pre, hsegs, hwalk⟩ := h loc hloc
  exact ⟨hold, hnew, pre, hsegs.trans hpre, hwalk⟩

theorem trans (h : MadeAlong segs t t₁) (h' : MadeAlong segs t₁ t₂) : MadeAlong segs t t₂ := by
  intro loc hloc
  by_cases hfirst : t₁.shapeAt loc = t.shapeAt loc
  · rw [← hfirst] at hloc ⊢
    exact h' loc hloc
  · obtain ⟨hold, hnew, pre, hpre, hwalk⟩ := h loc hfirst
    exact ⟨hold, h'.kept hnew, pre, hpre, walk_of_kept (fun _ hf => h'.kept hf) hwalk⟩

/-- Folders made along the segments of a path have names that entries have. -/
theorem legalNames {p : Path} (hp : p.Parsed) (hfits : p.Fits)
    (h : MadeAlong p.segments t t₁) (hnames : t.LegalNames) : t₁.LegalNames := by
  intro loc n hn
  by_cases hsame : t₁.shapeAt (loc ++ [n]) = t.shapeAt (loc ++ [n])
  · rw [hsame] at hn
    exact hnames loc n hn
  · obtain ⟨-, -, pre, hpre, hwalk⟩ := h _ hsame
    rcases mem_of_walk hwalk (by simp : n ∈ loc ++ [n]) with hnil | ⟨hmem, hup, hshort⟩
    · exact absurd hnil (by simp)
    · have hsegs : n ∈ p.segments := hpre.subset hmem
      obtain ⟨hempty, hhere, hslash⟩ := hp n hsegs
      have hnull : '\x00' ∉ n.toList := by
        have hall := List.any_eq_false.mp hfits.hasNull n hsegs
        simpa using hall
      exact ⟨hempty, hhere, hup, hslash, hnull, hshort⟩

end MadeAlong

theorem makeFolder_ok {t t' : FileTree} {p : Path} (h : t.makeFolder p = .ok t') :
    ∃ a n, t.resolve p = .ok (a ++ [n]) ∧ t.shapeAt a = some .folder ∧
      t.shapeAt (a ++ [n]) = none ∧
      t'.shapeAt = Function.update t.shapeAt (a ++ [n]) (some .folder) := by
  unfold makeFolder locate at h
  cases hr : t.resolve p with
  | error f => rw [hr] at h; exact absurd h (by simp)
  | ok loc =>
    rw [hr] at h
    dsimp only at h
    cases hfind : t.find loc with
    | some d => rw [hfind] at h; exact absurd h (by simp)
    | none =>
      rw [hfind] at h
      cases h
      have hnone : t.shapeAt loc = none := shapeAt_eq_none.mpr hfind
      rcases walk_lands t.shapeAt_nil (resolve_eq_ok.mp hr).2 with hfolder | ⟨a, n, rfl, ha⟩
      · rw [hnone] at hfolder
        exact absurd hfolder (by simp)
      · exact ⟨a, n, rfl, ha, hnone, shapeAt_setEmptyFolder ha hnone⟩

theorem makeFolder_of_folder {t : FileTree} {p : Path} {loc : Location} (h : FolderAt t p loc) :
    t.makeFolder p = .error ⟨.alreadyExists, p, none⟩ := by
  obtain ⟨es, hes⟩ := shapeAt_eq_folder.mp h.shape
  unfold makeFolder locate
  rw [h.resolve]
  dsimp only
  rw [hes]

theorem makeFolder_of_none {t : FileTree} {p : Path} {loc : Location}
    (hr : t.resolve p = .ok loc) (h : t.shapeAt loc = none) :
    t.makeFolder p = .ok (t.setEmptyFolder loc) := by
  unfold makeFolder locate
  rw [hr]
  dsimp only
  rw [shapeAt_eq_none.mp h]

theorem makeFolder_child_of_missing {t : FileTree} {p : Path} {loc : Location} {n : String}
    (hr : t.resolve p = .ok loc) (h : t.shapeAt loc = none) (hfits : (p.child n).Fits) :
    t.makeFolder (p.child n) = .error ⟨.missing, p.child n, none⟩ := by
  have hwalk : t.walk [] (p.child n).segments = .error .missing := by
    refine (walk_append_of_ok (resolve_eq_ok.mp hr).2 [n]).trans ?_
    rw [walk, shapeAt_eq_none.mp h]
  have hresolve : t.resolve (p.child n) = .error .missing := by
    unfold resolve
    rw [hfits.hasNull, if_neg (by simp), if_neg (by have := hfits.short; omega), hwalk]
  unfold makeFolder locate
  rw [hresolve]

/-- What making one folder does to a tree. -/
theorem madeAlong_makeFolder {t t' : FileTree} {p : Path} (h : t.makeFolder p = .ok t') :
    MadeAlong p.segments t t' ∧ ∃ loc, FolderAt t' p loc := by
  obtain ⟨a, n, hr, ha, hnone, hshape⟩ := makeFolder_ok h
  have hkept : ∀ loc, t.shapeAt loc = some .folder → t'.shapeAt loc = some .folder := by
    intro loc hloc
    by_cases heq : loc = a ++ [n]
    · subst heq
      rw [hshape, Function.update_self]
    · rw [hshape, Function.update_of_ne heq, hloc]
  have hr' := resolve_of_kept hkept hr
  have hnew : t'.shapeAt (a ++ [n]) = some .folder := by rw [hshape, Function.update_self]
  refine ⟨?_, a ++ [n], hr', hnew⟩
  intro loc hloc
  have heq : loc = a ++ [n] := by
    by_contra hne
    exact hloc (by rw [hshape, Function.update_of_ne hne])
  subst heq
  exact ⟨hnone, hnew, p.segments, List.prefix_rfl, (resolve_eq_ok.mp hr').2⟩

end FileTree

/-! ## Steps that fail -/

section Steps

variable {ε σ α : Type}

/-- What was done before a failure stays done when the failure is caught. -/
theorem catch_eq (x : EStateM ε σ α) (handle : ε → EStateM ε σ α) (s : σ) :
    tryCatch x handle s =
      match x s with
      | .ok a s' => .ok a s'
      | .error e s' => handle e s' := by
  change EStateM.tryCatch x handle s = _
  delta EStateM.tryCatch
  cases x s <;> rfl

theorem throw_eq (e : ε) (s : σ) : (throw e : EStateM ε σ α) s = .error e s := rfl

end Steps

namespace Disk

open FileTree

theorem acceptFolder_eq (p : Path) (e : FileError) (t : FileTree) :
    acceptFolder p e t =
      match t.isFolder p with
      | .ok true => .ok () t
      | .ok false => .error e t
      | .error e' => .error e' t := by
  unfold acceptFolder look
  simp only [bind, EStateM.bind]
  cases t.isFolder p with
  | error e' => rfl
  | ok b => cases b <;> rfl

theorem makeFolderOr_eq (p : Path) (onMissing : FileError → Disk Unit) (t : FileTree) :
    makeFolderOr p onMissing t =
      match t.makeFolder p with
      | .ok t' => .ok () t'
      | .error e => if e.fault = .missing then onMissing e t else acceptFolder p e t := by
  unfold makeFolderOr
  rw [catch_eq]
  simp only [step]
  cases hm : t.makeFolder p with
  | ok t' => rfl
  | error e =>
    by_cases hmiss : e.fault = .missing
    · simp only [if_pos hmiss]
    · simp only [if_neg hmiss]

theorem ok_of_acceptFolder {p : Path} {e : FileError} {t t' : FileTree}
    (h : acceptFolder p e t = .ok () t') : t' = t ∧ ∃ loc, FolderAt t p loc := by
  rw [acceptFolder_eq] at h
  cases hf : t.isFolder p with
  | error e' => rw [hf] at h; exact absurd h (by simp)
  | ok b =>
    rw [hf] at h
    cases b with
    | false => exact absurd h (by simp)
    | true =>
      cases h
      exact ⟨rfl, isFolder_eq_true.mp hf⟩

/-- How a folder comes to be there: it was made, it was there, or what was left open for a
missing folder above made it. -/
theorem ok_of_makeFolderOr {p : Path} {onMissing : FileError → Disk Unit} {t t' : FileTree}
    (h : makeFolderOr p onMissing t = .ok () t') :
    (MadeAlong p.segments t t' ∧ ∃ loc, FolderAt t' p loc) ∨ ∃ e, onMissing e t = .ok () t' := by
  rw [makeFolderOr_eq] at h
  cases hm : t.makeFolder p with
  | ok t₁ =>
    rw [hm] at h
    cases h
    exact Or.inl (madeAlong_makeFolder hm)
  | error e =>
    rw [hm] at h
    dsimp only at h
    by_cases hmiss : e.fault = .missing
    · rw [if_pos hmiss] at h
      exact Or.inr ⟨e, h⟩
    · rw [if_neg hmiss] at h
      obtain ⟨rfl, hfolder⟩ := ok_of_acceptFolder h
      exact Or.inl ⟨MadeAlong.refl _ _, hfolder⟩

theorem ok_of_makeFolderOr_throw {p : Path} {t t' : FileTree}
    (h : makeFolderOr p throw t = .ok () t') :
    MadeAlong p.segments t t' ∧ ∃ loc, FolderAt t' p loc := by
  rcases ok_of_makeFolderOr h with h | ⟨e, he⟩
  · exact h
  · exact absurd he (by simp [throw_eq])

theorem madeAlong_makeFoldersAt {anchor : Anchor} {segs : List String} {t t' : FileTree}
    (h : makeFoldersAt anchor segs t = .ok () t') :
    MadeAlong segs.reverse t t' ∧ ∃ loc, FolderAt t' ⟨anchor, segs.reverse⟩ loc := by
  induction segs generalizing t t' with
  | nil => exact ok_of_makeFolderOr_throw h
  | cons s above ih =>
    rw [makeFoldersAt] at h
    rcases ok_of_makeFolderOr h with h | ⟨e, he⟩
    · exact h
    · simp only [bind, EStateM.bind] at he
      cases habove : makeFoldersAt anchor above t with
      | error e' t₁ => rw [habove] at he; exact absurd he (by simp)
      | ok u t₁ =>
        rw [habove] at he
        obtain ⟨hmade, -⟩ := ih habove
        obtain ⟨hmade', hfolder⟩ := ok_of_makeFolderOr_throw he
        have hpre : above.reverse <+: (s :: above).reverse := by simp
        exact ⟨(hmade.mono hpre).trans hmade', hfolder⟩

theorem madeAlong_makeFolders {p : Path} {t t' : FileTree} (h : makeFolders p t = .ok () t') :
    MadeAlong p.segments t t' ∧ ∃ loc, FolderAt t' p loc := by
  have h' := madeAlong_makeFoldersAt h
  rw [List.reverse_reverse] at h'
  exact h'

theorem makeFolderOr_of_folder {p : Path} {t : FileTree} {loc : Location} (h : FolderAt t p loc)
    (onMissing : FileError → Disk Unit) : makeFolderOr p onMissing t = .ok () t := by
  rw [makeFolderOr_eq, makeFolder_of_folder h]
  dsimp only
  rw [if_neg (by decide), acceptFolder_eq, isFolder_eq_true.mpr ⟨loc, h⟩]

theorem makeFolders_of_folder {p : Path} {t : FileTree} {loc : Location} (h : FolderAt t p loc) :
    makeFolders p t = .ok () t := by
  obtain ⟨anchor, segs⟩ := p
  unfold makeFolders
  cases hrev : segs.reverse with
  | nil =>
    have hnil : segs = [] := List.reverse_eq_nil_iff.mp hrev
    subst hnil
    exact makeFolderOr_of_folder h _
  | cons s above =>
    have hsegs : (s :: above).reverse = segs := by rw [← hrev, List.reverse_reverse]
    rw [makeFoldersAt, hsegs]
    exact makeFolderOr_of_folder h _

theorem makeFolders_child (p : Path) (n : String) (t : FileTree) :
    makeFolders (p.child n) t =
      makeFolderOr (p.child n) (fun _ => do makeFolders p; makeFolderOr (p.child n) throw) t := by
  unfold makeFolders Path.child
  simp only [List.reverse_append, List.reverse_cons, List.reverse_nil, List.nil_append,
    List.singleton_append, makeFoldersAt, List.reverse_reverse]

theorem makeFolders_child_of_none {p : Path} {t : FileTree} {loc : Location} {n : String}
    (hr : t.resolve (p.child n) = .ok loc) (h : t.shapeAt loc = none) :
    makeFolders (p.child n) t = .ok () (t.setEmptyFolder loc) := by
  rw [makeFolders_child, makeFolderOr_eq, makeFolder_of_none hr h]

/-- The folders above are made first where they are missing. -/
theorem makeFolders_child_of_missing {p : Path} {t t₁ : FileTree} {loc loc' : Location}
    {n : String} (hr : t.resolve p = .ok loc) (h : t.shapeAt loc = none)
    (hfits : (p.child n).Fits) (habove : makeFolders p t = .ok () t₁)
    (hr₁ : t₁.resolve (p.child n) = .ok loc') (h₁ : t₁.shapeAt loc' = none) :
    makeFolders (p.child n) t = .ok () (t₁.setEmptyFolder loc') := by
  rw [makeFolders_child, makeFolderOr_eq, makeFolder_child_of_missing hr h hfits]
  dsimp only
  rw [if_pos rfl]
  simp only [bind, EStateM.bind]
  rw [habove]
  dsimp only
  rw [makeFolderOr_eq, makeFolder_of_none hr₁ h₁]

end Disk

end CardLogic
