import CardLogic.Proofs.FileTree.Effects
import Mathlib.Data.List.Induction

/-!
The way to a folder that is made.

Making the folders along some names, from a folder that is there, goes on until a name is too long
or a file is met (`wayFault`), and up to there every folder that was missing is made (`Opens`); this
is all that happens (`makeFolders_below`).  Neither the fault nor the locations depend on which of
the folders were missing, only on where files stand (`wayFault_congr`, `opens_congr`).  So they are
the same after others made some of the folders.
-/

namespace CardLogic

/-- The fault that steps fail with, if they fail. -/
def faultOf {σ α : Type} : EStateM.Result FileError σ α → Option Fault
  | .ok _ _ => none
  | .error e _ => some e.fault

namespace FileTree

/-- What keeps folders from being made along some names. -/
def wayFault (shapes : Location → Option Shape) (here : Location) : List String → Option Fault
  | [] => none
  | n :: rest =>
    if nameLimit < n.utf8ByteSize then some .nameTooLong
    else
      match shapes (here ++ [n]) with
      | some (.file _) => some (if rest = [] then .alreadyExists else .notAFolder)
      | _ => wayFault shapes (here ++ [n]) rest

/-- Where folders are, or can be made, along some names. -/
def Opens (shapes : Location → Option Shape) (here : Location) : List String → Location → Prop
  | [], _ => False
  | n :: rest, loc => n.utf8ByteSize ≤ nameLimit ∧
      (∀ content, shapes (here ++ [n]) ≠ some (.file content)) ∧
      (loc = here ++ [n] ∨ Opens shapes (here ++ [n]) rest loc)

/-- Between two trees folders came to some locations, where nothing was, and nothing else
happened. -/
structure Opened (opens : Location → Prop) (t t' : FileTree) : Prop where
  made : ∀ loc, opens loc → t.shapeAt loc = none → t'.shapeAt loc = some .folder
  kept : ∀ loc, (t.shapeAt loc = none → ¬ opens loc) → t'.shapeAt loc = t.shapeAt loc

/-- The same locations hold files. -/
def SameFiles (where' : Location → Prop) (shapes shapes' : Location → Option Shape) : Prop :=
  ∀ loc, where' loc →
    ((∃ content, shapes' loc = some (.file content)) ↔ ∃ content, shapes loc = some (.file content))

variable {shapes shapes' : Location → Option Shape} {here loc : Location} {names : List String}
  {t t₁ t' : FileTree} {p base : Path}

/-! ## What the way depends on -/

theorem wayFault_cons_of_file {n : String} {rest : List String} {content : ByteArray}
    (hshort : n.utf8ByteSize ≤ nameLimit) (h : shapes (here ++ [n]) = some (.file content)) :
    wayFault shapes here (n :: rest) =
      some (if rest = [] then .alreadyExists else .notAFolder) := by
  rw [wayFault, if_neg (by omega), h]

theorem wayFault_cons_of_no_file {n : String} {rest : List String}
    (hshort : n.utf8ByteSize ≤ nameLimit)
    (h : ∀ content, shapes (here ++ [n]) ≠ some (.file content)) :
    wayFault shapes here (n :: rest) = wayFault shapes (here ++ [n]) rest := by
  rw [wayFault, if_neg (by omega)]
  split
  · next content hfile => exact absurd hfile (h content)
  · rfl

theorem prefix_of_opens (h : Opens shapes here names loc) : loc <+: here ++ names := by
  induction names generalizing here with
  | nil => exact h.elim
  | cons n rest ih =>
    rw [List.append_cons here n rest]
    rcases h.2.2 with rfl | h
    · exact List.prefix_append _ _
    · exact ih h

theorem wayFault_congr (h : SameFiles (fun loc => loc <+: here ++ names) shapes shapes') :
    wayFault shapes' here names = wayFault shapes here names := by
  induction names generalizing here with
  | nil => rfl
  | cons n rest ih =>
    rw [List.append_cons here n rest] at h
    by_cases hlong : nameLimit < n.utf8ByteSize
    · rw [wayFault, wayFault, if_pos hlong, if_pos hlong]
    · have hiff := h (here ++ [n]) (List.prefix_append _ _)
      by_cases hfile : ∃ content, shapes (here ++ [n]) = some (.file content)
      · obtain ⟨content', hfile'⟩ := hiff.mpr hfile
        obtain ⟨content, hfile⟩ := hfile
        rw [wayFault_cons_of_file (by omega) hfile, wayFault_cons_of_file (by omega) hfile']
      · have hfile' := fun h' => hfile (hiff.mp h')
        rw [not_exists] at hfile
        rw [wayFault_cons_of_no_file (by omega) hfile,
          wayFault_cons_of_no_file (by omega) fun content hc => hfile' ⟨content, hc⟩, ih h]

theorem opens_congr (h : SameFiles (fun loc => loc <+: here ++ names) shapes shapes') :
    Opens shapes' here names loc ↔ Opens shapes here names loc := by
  induction names generalizing here with
  | nil => exact Iff.rfl
  | cons n rest ih =>
    rw [List.append_cons here n rest] at h
    have hiff := h (here ++ [n]) (List.prefix_append _ _)
    rw [Opens, Opens, ih h, ← not_exists, hiff, ← not_exists]

/-! ## One name more -/

theorem wayFault_concat {n : String}
    (h : ∀ content, shapes (here ++ names) ≠ some (.file content)) :
    wayFault shapes here (names ++ [n]) =
      (wayFault shapes here names).or (wayFault shapes (here ++ names) [n]) := by
  induction names generalizing here with
  | nil => rw [List.nil_append, List.append_nil]; rfl
  | cons m rest ih =>
    rw [List.append_cons here m rest] at h ⊢
    rw [List.cons_append]
    by_cases hlong : nameLimit < m.utf8ByteSize
    · rw [wayFault, if_pos hlong, wayFault, if_pos hlong]
      rfl
    · by_cases hfile : ∃ content, shapes (here ++ [m]) = some (.file content)
      · obtain ⟨content, hfile⟩ := hfile
        have hrest : rest ≠ [] := by
          rintro rfl
          rw [List.append_nil] at h
          exact h content hfile
        rw [wayFault_cons_of_file (by omega) hfile, wayFault_cons_of_file (by omega) hfile,
          if_neg hrest, if_neg (by simp)]
        rfl
      · rw [not_exists] at hfile
        rw [wayFault_cons_of_no_file (by omega) hfile, wayFault_cons_of_no_file (by omega) hfile,
          ih h]

theorem opens_concat {n : String} :
    Opens shapes here (names ++ [n]) loc ↔
      Opens shapes here names loc ∨
        (wayFault shapes here names = none ∧ Opens shapes (here ++ names) [n] loc) := by
  induction names generalizing here with
  | nil =>
    rw [List.nil_append, List.append_nil]
    exact ⟨fun h => Or.inr ⟨rfl, h⟩, fun h => h.elim False.elim And.right⟩
  | cons m rest ih =>
    rw [List.cons_append, Opens, Opens, List.append_cons here m rest, ih]
    by_cases hlong : nameLimit < m.utf8ByteSize
    · rw [wayFault, if_pos hlong]
      have hshort : ¬ m.utf8ByteSize ≤ nameLimit := by omega
      simp [hshort]
    · by_cases hfile : ∃ content, shapes (here ++ [m]) = some (.file content)
      · obtain ⟨content, hfile⟩ := hfile
        rw [wayFault_cons_of_file (by omega) hfile]
        simp [hfile]
      · rw [not_exists] at hfile
        rw [wayFault_cons_of_no_file (by omega) hfile]
        have hshort : m.utf8ByteSize ≤ nameLimit := by omega
        simp only [hshort, hfile, ne_eq, not_false_eq_true, implies_true, true_and, or_assoc]

theorem opens_singleton {n : String} : Opens shapes here [n] loc ↔
    n.utf8ByteSize ≤ nameLimit ∧ (∀ content, shapes (here ++ [n]) ≠ some (.file content)) ∧
      loc = here ++ [n] := by
  rw [Opens, Opens, or_false]

/-! ## Ways that are walked -/

/-- On a way to a folder nothing is missing and nothing is met. -/
theorem way_of_walk_ok (hup : Path.up ∉ names) (h : t.walk here names = .ok loc)
    (hloc : t.shapeAt loc = some .folder) :
    wayFault t.shapeAt here names = none ∧
      ∀ l, Opens t.shapeAt here names l → t.shapeAt l = some .folder := by
  induction names generalizing here with
  | nil => exact ⟨rfl, fun l hl => hl.elim⟩
  | cons n rest ih =>
    have hn : n ≠ Path.up := fun heq => hup (heq ▸ List.mem_cons_self)
    rw [walk_cons_of_folder (shapeAt_of_walk_cons h), if_neg hn] at h
    by_cases hlong : nameLimit < n.utf8ByteSize
    · rw [if_pos hlong] at h
      exact absurd h (by simp)
    · rw [if_neg hlong] at h
      have hfolder : t.shapeAt (here ++ [n]) = some .folder := by
        cases rest with
        | nil => cases h; exact hloc
        | cons m rest => exact shapeAt_of_walk_cons h
      obtain ⟨hfault, hopens⟩ := ih (fun hmem => hup (List.mem_cons_of_mem n hmem)) h
      rw [wayFault_cons_of_no_file (by omega) (by simp [hfolder])]
      refine ⟨hfault, fun l hl => ?_⟩
      rcases hl.2.2 with rfl | hl
      · exact hfolder
      · exact hopens l hl

/-- A walk that is stopped, but not where something is missing, is stopped by what is met on
the way. -/
theorem way_of_walk_error (hhere : t.shapeAt here = some .folder) (hup : Path.up ∉ names)
    {fault : Fault} (h : t.walk here names = .error fault) (hfault : fault ≠ .missing) :
    wayFault t.shapeAt here names = some fault ∧
      ∀ l, Opens t.shapeAt here names l → t.shapeAt l = some .folder := by
  induction names generalizing here with
  | nil => exact absurd h (by simp [walk])
  | cons n rest ih =>
    have hn : n ≠ Path.up := fun heq => hup (heq ▸ List.mem_cons_self)
    rw [walk_cons_of_folder hhere, if_neg hn] at h
    by_cases hlong : nameLimit < n.utf8ByteSize
    · rw [if_pos hlong] at h
      cases h
      rw [wayFault, if_pos hlong]
      exact ⟨rfl, fun l hl => absurd hl.1 (by omega)⟩
    · rw [if_neg hlong] at h
      have hrest : rest ≠ [] := by
        rintro rfl
        exact absurd h (by simp [walk])
      obtain ⟨m, more, rfl⟩ := List.exists_cons_of_ne_nil hrest
      cases hshape : t.shapeAt (here ++ [n]) with
      | none =>
        rw [walk, shapeAt_eq_none.mp hshape] at h
        cases h
        exact absurd rfl hfault
      | some sh =>
        cases sh with
        | file content =>
          rw [walk, shapeAt_eq_file.mp hshape] at h
          cases h
          rw [wayFault_cons_of_file (by omega) hshape, if_neg hrest]
          exact ⟨rfl, fun l hl => absurd hshape (hl.2.1 content)⟩
        | folder =>
          obtain ⟨hway, hopens⟩ := ih hshape (fun hmem => hup (List.mem_cons_of_mem n hmem)) h
          rw [wayFault_cons_of_no_file (by omega) (by simp [hshape])]
          refine ⟨hway, fun l hl => ?_⟩
          rcases hl.2.2 with rfl | hl
          · exact hshape
          · exact hopens l hl

/-- Where a walk is stopped for something that is missing, nothing is at the end of what comes
before its last name. -/
theorem shapeAt_of_walk_missing {n : String} (hhere : t.shapeAt here = some .folder)
    (hup : Path.up ∉ names ++ [n]) (h : t.walk here (names ++ [n]) = .error .missing) :
    t.shapeAt (here ++ names) = none := by
  induction names generalizing here with
  | nil =>
    have hn : n ≠ Path.up := fun heq => hup (heq ▸ List.mem_cons_self)
    rw [List.nil_append, walk_cons_of_folder hhere, if_neg hn] at h
    by_cases hlong : nameLimit < n.utf8ByteSize
    · rw [if_pos hlong] at h
      exact absurd h (by simp)
    · rw [if_neg hlong] at h
      exact absurd h (by simp [walk])
  | cons m rest ih =>
    have hm : m ≠ Path.up := fun heq => hup (heq ▸ List.mem_cons_self)
    rw [List.cons_append] at hup h
    rw [walk_cons_of_folder hhere, if_neg hm] at h
    by_cases hlong : nameLimit < m.utf8ByteSize
    · rw [if_pos hlong] at h
      exact absurd h (by simp)
    · rw [if_neg hlong] at h
      rw [List.append_cons here m rest]
      cases hshape : t.shapeAt (here ++ [m]) with
      | none => exact shapeAt_of_above_eq_none hshape rest
      | some sh =>
        cases sh with
        | folder => exact ih hshape (fun hmem => hup (List.mem_cons_of_mem m hmem)) h
        | file content =>
          obtain ⟨k, more, hmore⟩ := List.exists_cons_of_ne_nil (by simp : rest ++ [n] ≠ [])
          rw [hmore, walk, shapeAt_eq_file.mp hshape] at h
          exact absurd h (by simp)

/-! ## Paths that are handed on -/

/-- Why a path cannot be handed to the operating system, if it cannot. -/
def pathFault? (p : Path) : Option Fault :=
  if p.hasNull then some .nullCharacter
  else if pathLimit < p.toString.utf8ByteSize then some .nameTooLong else none

theorem pathFault?_eq_none : pathFault? p = none ↔ p.Fits := by
  unfold pathFault?
  by_cases hnull : p.hasNull = true
  · rw [if_pos hnull]
    exact ⟨fun h => absurd h (by simp), fun h => absurd (hnull.symm.trans h.hasNull) (by simp)⟩
  · rw [if_neg hnull]
    by_cases hlong : pathLimit < p.toString.utf8ByteSize
    · rw [if_pos hlong]
      exact ⟨fun h => absurd h (by simp), fun h => absurd hlong (by have := h.short; omega)⟩
    · rw [if_neg hlong]
      exact ⟨fun _ => ⟨by simpa using hnull, by omega⟩, fun _ => rfl⟩

theorem resolve_of_pathFault? {fault : Fault} (h : pathFault? p = some fault) (t : FileTree) :
    t.resolve p = .error fault ∧ fault ≠ .missing := by
  unfold pathFault? at h
  unfold resolve
  by_cases hnull : p.hasNull = true
  · rw [if_pos hnull] at h ⊢
    cases h
    exact ⟨rfl, by decide⟩
  · rw [if_neg hnull] at h ⊢
    by_cases hlong : pathLimit < p.toString.utf8ByteSize
    · rw [if_pos hlong] at h ⊢
      cases h
      exact ⟨rfl, by decide⟩
    · rw [if_neg hlong] at h
      exact absurd h (by simp)

/-- Below a folder, a path that fits leads where its names do. -/
theorem resolve_below (h : FolderAt t base here) (hfits : (base.below names).Fits) :
    t.resolve (base.below names) = t.walk here names := by
  have hwalk : t.walk [] (base.below names).segments = t.walk here names :=
    walk_append_of_ok (resolve_eq_ok.mp h.resolve).2 names
  unfold resolve
  rw [hfits.hasNull, if_neg (by simp), if_neg (by have := hfits.short; omega), hwalk]

/-! ## Making the folders -/

theorem Opened.refl {opens : Location → Prop} (h : ∀ loc, opens loc → t.shapeAt loc ≠ none) :
    Opened opens t t :=
  ⟨fun loc hloc hnone => absurd hnone (h loc hloc), fun _ _ => rfl⟩

theorem Opened.congr {opens opens' : Location → Prop} (hopens : ∀ loc, opens' loc ↔ opens loc)
    (h : Opened opens t t') : Opened opens' t t' :=
  ⟨fun loc hloc => h.made loc ((hopens loc).mp hloc),
    fun loc hloc => h.kept loc fun hnone hopen => hloc hnone ((hopens loc).mpr hopen)⟩

/-- Where folders came, no file came or went. -/
theorem Opened.sameFiles {opens : Location → Prop} (h : Opened opens t t')
    (where' : Location → Prop) : SameFiles where' t.shapeAt t'.shapeAt := by
  intro loc _
  by_cases hopen : t.shapeAt loc = none ∧ opens loc
  · rw [h.made loc hopen.2 hopen.1, hopen.1]
    simp
  · rw [h.kept loc fun hnone hloc => hopen ⟨hnone, hloc⟩]

theorem Opened.there {opens : Location → Prop} (h : Opened opens t t')
    (hthere : t.shapeAt loc ≠ none) : t'.shapeAt loc = t.shapeAt loc :=
  h.kept loc fun hnone => absurd hnone hthere

theorem Opened.trans {opens opens' : Location → Prop} (h : Opened opens t t₁)
    (h' : Opened opens' t₁ t') : Opened (fun loc => opens loc ∨ opens' loc) t t' := by
  refine ⟨fun loc hloc hnone => ?_, fun loc hloc => ?_⟩
  · by_cases hopen : opens loc
    · have hfolder := h.made loc hopen hnone
      rw [h'.there (by rw [hfolder]; simp), hfolder]
    · have hsame := h.kept loc fun _ => hopen
      exact h'.made loc (hloc.resolve_left hopen) (hsame.trans hnone)
  · have hsame := h.kept loc fun hnone hopen => hloc hnone (Or.inl hopen)
    rw [h'.kept loc fun hnone hopen => hloc (hsame.symm.trans hnone) (Or.inr hopen), hsame]

end FileTree

namespace Disk

open FileTree

variable {t t₁ t' : FileTree} {p base : Path} {here : Location} {names : List String}

/-- A folder is not made where its path does not lead anywhere, unless something is missing. -/
theorem makeFolderOr_of_error {onMissing : FileError → Disk Unit} {fault : Fault}
    (hr : t.resolve p = .error fault) (hfault : fault ≠ .missing) :
    makeFolderOr p onMissing t = .error ⟨fault, p, none⟩ t := by
  have hmake : t.makeFolder p = .error ⟨fault, p, none⟩ := by
    unfold makeFolder locate
    rw [hr]
  rw [makeFolderOr_eq, hmake]
  dsimp only
  rw [if_neg hfault, acceptFolder_eq]
  unfold isFolder entry?
  rw [hr]
  cases fault <;> rfl

/-- A folder is not made where a file is. -/
theorem makeFolderOr_of_file {onMissing : FileError → Disk Unit} {loc : Location}
    {content : ByteArray} (hr : t.resolve p = .ok loc)
    (hfile : t.shapeAt loc = some (.file content)) :
    makeFolderOr p onMissing t = .error ⟨.alreadyExists, p, none⟩ t := by
  have hmake : t.makeFolder p = .error ⟨.alreadyExists, p, none⟩ := by
    unfold makeFolder locate
    rw [hr]
    dsimp only
    rw [shapeAt_eq_file.mp hfile]
  rw [makeFolderOr_eq, hmake]
  dsimp only
  rw [if_neg (by decide), acceptFolder_eq]
  unfold isFolder entry?
  rw [hr]
  dsimp only
  rw [shapeAt_eq_file.mp hfile]
  rfl

theorem makeFolders_of_error {fault : Fault} (hr : t.resolve p = .error fault)
    (hfault : fault ≠ .missing) : makeFolders p t = .error ⟨fault, p, none⟩ t := by
  obtain ⟨anchor, segs⟩ := p
  rcases List.eq_nil_or_concat segs with rfl | ⟨above, n, rfl⟩
  · exact makeFolderOr_of_error hr hfault
  · rw [List.concat_eq_append] at hr ⊢
    have hchild : (⟨anchor, above ++ [n]⟩ : Path) = (⟨anchor, above⟩ : Path).child n := rfl
    rw [hchild] at hr ⊢
    rw [makeFolders_child]
    exact makeFolderOr_of_error hr hfault

/-- The last folder of a way, in a folder that is there. -/
theorem makeFolderOr_child {n : String} (h : FolderAt t p here) (hup : n ≠ Path.up)
    (hfits : (p.child n).Fits) (onMissing : FileError → Disk Unit) :
    faultOf (makeFolderOr (p.child n) onMissing t) = wayFault t.shapeAt here [n] ∧
      Opened (Opens t.shapeAt here [n]) t (after (makeFolderOr (p.child n) onMissing) t) := by
  by_cases hlong : nameLimit < n.utf8ByteSize
  · have hresolve : t.resolve (p.child n) = .error .nameTooLong := by
      have hwalk : t.walk [] (p.child n).segments = .error .nameTooLong := by
        refine (walk_append_of_ok (resolve_eq_ok.mp h.resolve).2 [n]).trans ?_
        rw [walk_cons_of_folder h.shape, if_neg hup, if_pos hlong]
      unfold resolve
      rw [hfits.hasNull, if_neg (by simp), if_neg (by have := hfits.short; omega), hwalk]
    rw [wayFault, if_pos hlong]
    unfold after
    rw [makeFolderOr_of_error hresolve (by decide)]
    exact ⟨rfl, Opened.refl fun loc hloc => absurd hloc.1 (by omega)⟩
  · have hshort : n.utf8ByteSize ≤ nameLimit := by omega
    have hresolve := h.resolve_child hup hshort hfits
    cases hshape : t.shapeAt (here ++ [n]) with
    | none =>
      have hmake := makeFolder_of_none hresolve hshape
      have hnew := shapeAt_setEmptyFolder h.shape hshape
      rw [wayFault_cons_of_no_file hshort (by simp [hshape])]
      unfold after
      rw [makeFolderOr_eq, hmake]
      refine ⟨rfl, fun loc hloc _ => ?_, fun loc hloc => ?_⟩
      · rw [(opens_singleton.mp hloc).2.2]
        dsimp only
        rw [hnew, Function.update_self]
      · have hne : loc ≠ here ++ [n] := by
          rintro rfl
          exact hloc hshape (opens_singleton.mpr ⟨hshort, by simp [hshape], rfl⟩)
        dsimp only
        rw [hnew, Function.update_of_ne hne]
    | some sh =>
      have hthere : ∀ loc, Opens t.shapeAt here [n] loc → t.shapeAt loc ≠ none := by
        intro loc hloc
        rw [(opens_singleton.mp hloc).2.2, hshape]
        simp
      cases sh with
      | file content =>
        rw [wayFault_cons_of_file hshort hshape, if_pos rfl]
        unfold after
        rw [makeFolderOr_of_file hresolve hshape]
        exact ⟨rfl, Opened.refl hthere⟩
      | folder =>
        rw [wayFault_cons_of_no_file hshort (by simp [hshape])]
        unfold after
        rw [makeFolderOr_of_folder ⟨hresolve, hshape⟩]
        exact ⟨rfl, Opened.refl hthere⟩

/-- Where the folder above a folder is missing, those above are made first. -/
theorem makeFolders_child_of_error {n : String} (hr : t.resolve (p.child n) = .error .missing) :
    makeFolders (p.child n) t =
      (do makeFolders p; makeFolderOr (p.child n) throw : Disk Unit) t := by
  have hmake : t.makeFolder (p.child n) = .error ⟨.missing, p.child n, none⟩ := by
    unfold makeFolder locate
    rw [hr]
  rw [makeFolders_child, makeFolderOr_eq, hmake]
  dsimp only
  rw [if_pos rfl]

/-- A way whose last folder but one is missing is made by making the way to that one. -/
theorem makeFolders_below_concat {n : String} (h : FolderAt t base here)
    (hup : Path.up ∉ names ++ [n]) (hfits : ((base.below names).child n).Fits)
    (hnone : t.shapeAt (here ++ names) = none)
    (hr : t.resolve ((base.below names).child n) = .error .missing)
    (habove : faultOf (makeFolders (base.below names) t) = wayFault t.shapeAt here names ∧
      Opened (Opens t.shapeAt here names) t (after (makeFolders (base.below names)) t)) :
    faultOf (makeFolders ((base.below names).child n) t) =
        wayFault t.shapeAt here (names ++ [n]) ∧
      Opened (Opens t.shapeAt here (names ++ [n])) t
        (after (makeFolders ((base.below names).child n)) t) := by
  obtain ⟨hfault, hopened⟩ := habove
  rw [wayFault_concat (by simp [hnone])]
  unfold after at hopened ⊢
  rw [makeFolders_child_of_error hr]
  simp only [bind, EStateM.bind]
  cases hmakes : makeFolders (base.below names) t with
  | error e t₁ =>
    rw [hmakes] at hfault hopened
    dsimp only [faultOf] at hfault hopened ⊢
    rw [← hfault]
    exact ⟨rfl, hopened.congr fun loc => by rw [opens_concat, ← hfault]; simp⟩
  | ok u t₁ =>
    rw [hmakes] at hfault hopened
    dsimp only [faultOf] at hfault hopened ⊢
    have hmid : FolderAt t₁ (base.below names) (here ++ names) := by
      obtain ⟨-, loc, hloc⟩ := madeAlong_makeFolders hmakes
      have hwhere : loc = here ++ names := by
        rw [← hloc.location_eq, ← h.location_eq]
        exact (landing_append [] base.segments names).trans
          (landing_of_not_mem _ fun hmem => hup (List.mem_append_left _ hmem))
      exact hwhere ▸ hloc
    have hsame := hopened.sameFiles fun loc => loc <+: here ++ names ++ [n]
    obtain ⟨hlast, hopened'⟩ := makeFolderOr_child hmid
      (fun heq => hup (heq ▸ List.mem_append_right _ (by simp))) hfits throw
    unfold after at hopened'
    rw [← hfault, Option.none_or]
    refine ⟨hlast.trans (wayFault_congr hsame), (hopened.trans hopened').congr fun loc => ?_⟩
    rw [opens_concat, ← hfault, opens_congr hsame]
    simp

/-- Making the folders along some names fails with what is in the way, and up to there it makes
what is missing. -/
theorem makeFolders_below (h : FolderAt t base here) (hup : Path.up ∉ names)
    (hfits : (base.below names).Fits) :
    faultOf (makeFolders (base.below names) t) = wayFault t.shapeAt here names ∧
      Opened (Opens t.shapeAt here names) t (after (makeFolders (base.below names)) t) := by
  induction names using List.reverseRec with
  | nil =>
    rw [Path.below_nil, after_of_ok (makeFolders_of_folder h), makeFolders_of_folder h]
    exact ⟨rfl, Opened.refl fun loc hloc => hloc.elim⟩
  | append_singleton above n ih =>
    have hn : n ≠ Path.up := fun heq => hup (heq ▸ List.mem_append_right _ (by simp))
    have habove : Path.up ∉ above := fun hmem => hup (List.mem_append_left _ hmem)
    have hsplit : base.below (above ++ [n]) = (base.below above).child n := by
      rw [Path.below_append, Path.below_singleton]
    have hbase := (resolve_eq_ok.mp h.resolve).2
    rw [hsplit] at hfits ⊢
    by_cases hthere : FolderAt t (base.below above) (here ++ above)
    · -- All folders but the last are there.
      have hwalk : t.walk here above = .ok (here ++ above) :=
        (walk_append_of_ok hbase above).symm.trans (resolve_eq_ok.mp hthere.resolve).2
      obtain ⟨hway, hopens⟩ := way_of_walk_ok habove hwalk hthere.shape
      obtain ⟨hfault, hopened⟩ := makeFolderOr_child hthere hn hfits
        fun _ => do makeFolders (base.below above); makeFolderOr ((base.below above).child n) throw
      unfold after at hopened ⊢
      rw [wayFault_concat (by simp [hthere.shape]), hway, Option.none_or, makeFolders_child]
      refine ⟨hfault, fun loc hloc hnone => ?_, fun loc hloc => ?_⟩
      · rcases opens_concat.mp hloc with hold | ⟨-, hlast⟩
        · rw [hopens loc hold] at hnone
          exact absurd hnone (by simp)
        · exact hopened.made loc hlast hnone
      · refine hopened.kept loc fun hnone hlast => hloc hnone ?_
        exact opens_concat.mpr (Or.inr ⟨hway, hlast⟩)
    · cases hwalk : t.walk here (above ++ [n]) with
      | ok loc =>
        obtain ⟨mid, hmid, hlast⟩ := ok_of_walk_append hwalk
        have hwhere : mid = here ++ above :=
          (landing_of_walk hmid).symm.trans (landing_of_not_mem here habove)
        subst hwhere
        exact absurd ⟨resolve_eq_ok.mpr
          ⟨hfits.of_child, (walk_append_of_ok hbase above).trans hmid⟩,
          shapeAt_of_walk_cons hlast⟩ hthere
      | error fault =>
        have hresolve : t.resolve ((base.below above).child n) = .error fault := by
          rw [← hsplit] at hfits ⊢
          rw [resolve_below h hfits, hwalk]
        by_cases hmissing : fault = .missing
        · subst hmissing
          exact makeFolders_below_concat h hup hfits (shapeAt_of_walk_missing h.shape hup hwalk)
            hresolve (ih habove hfits.of_child)
        · obtain ⟨hway, hopens⟩ := way_of_walk_error h.shape hup hwalk hmissing
          have herror := makeFolders_of_error hresolve hmissing
          unfold after
          rw [hway, herror]
          exact ⟨rfl, Opened.refl fun loc hloc => by rw [hopens loc hloc]; simp⟩

end Disk

end CardLogic
