import CardLogic.FileTree.Basic
import Mathlib.Logic.Function.Basic

/-!
A tree as a function of locations.

`FileTree.shapeAt` says what stands at a location without what lies in it: a file with its
content, a folder, or nothing.  A tree is known by these answers alone
(`FileTree.ext_shapeAt`), and a single step changes them in one place.  So what a run of
steps does to a tree is settled by asking which locations are the same.
-/

namespace CardLogic

/-- What stands at a location, without what lies in it. -/
inductive Shape where
  | file (content : ByteArray)
  | folder

instance : DecidableEq Shape
  | .file a, .file b =>
    decidable_of_iff (a.data = b.data)
      ⟨fun h => congrArg Shape.file (ByteArray.ext h), fun h => by cases h; rfl⟩
  | .file _, .folder => isFalse nofun
  | .folder, .file _ => isFalse nofun
  | .folder, .folder => isTrue rfl

def Node.shape : Node → Shape
  | .file c => .file c
  | .folder _ => .folder

namespace Entries

def shapeAt (es : Entries) (loc : Location) : Option Shape := (find es loc).map Node.shape

theorem shapeAt_nil (es : Entries) : shapeAt es [] = some .folder := rfl

theorem shapeAt_cons (es : Entries) (n : String) (loc : Location) :
    shapeAt es (n :: loc) =
      match get? es n with
      | none => none
      | some (.file c) => if loc = [] then some (.file c) else none
      | some (.folder sub) => shapeAt sub loc := by
  unfold shapeAt
  rw [find]
  cases hget : get? es n with
  | none => rfl
  | some d =>
    cases d with
    | file c => by_cases hloc : loc = [] <;> simp [hloc, Node.shape]
    | folder sub => rfl

theorem shapeAt_singleton (es : Entries) (n : String) :
    shapeAt es [n] = (get? es n).map Node.shape := by
  rw [shapeAt_cons]
  cases get? es n with
  | none => rfl
  | some d => cases d <;> rfl

/-! ## Trees with the same answers -/

theorem get?_of_mem {es : Entries} (hes : Node.OrderedEntries es) {n : String} {d : Node}
    (h : (n, d) ∈ es) : get? es n = some d := by
  induction es with
  | nil => exact absurd h (by simp)
  | cons e es ih =>
    obtain ⟨m, d'⟩ := e
    obtain ⟨hlt, _, hrest⟩ := hes
    rcases List.mem_cons.mp h with he | h
    · cases he
      rw [get?, if_pos rfl]
    · have hne : ¬ m = n := fun he => String.lt_irrefl n (he ▸ hlt (n, d) h)
      rw [get?, if_neg hne, ih hrest h]

theorem mem_of_get? {es : Entries} {n : String} {d : Node} (h : get? es n = some d) :
    (n, d) ∈ es := by
  induction es with
  | nil => exact absurd h (by simp [get?])
  | cons e es ih =>
    obtain ⟨m, d'⟩ := e
    rw [get?] at h
    by_cases hm : m = n
    · rw [if_pos hm] at h
      cases h
      subst hm
      exact List.mem_cons_self
    · rw [if_neg hm] at h
      exact List.mem_cons_of_mem _ (ih h)

theorem shapeAt_head (n : String) (d : Node) (es : Entries) :
    shapeAt ((n, d) :: es) [n] = some d.shape := by
  rw [shapeAt_singleton, get?, if_pos rfl]
  rfl

theorem shapeAt_head_of_lt {n m : String} {d : Node} {es : Entries} (hnm : n < m)
    (hes : ∀ e ∈ es, m < e.1) : shapeAt ((m, d) :: es) [n] = none := by
  have hlt : ∀ e ∈ (m, d) :: es, n < e.1 := by
    intro e he
    rcases List.mem_cons.mp he with rfl | he
    · exact hnm
    · exact String.lt_trans hnm (hes e he)
  rw [shapeAt_singleton, get?_eq_none_of_lt hlt]
  rfl

end Entries

open Entries in
mutual

/-- Two nodes of one shape, with the same shapes inside, are the same. -/
theorem Node.eq_of_shapes : ∀ {d d' : Node}, d.Ordered → d'.Ordered → d.shape = d'.shape →
    (∀ es es', d = .folder es → d' = .folder es' → ∀ loc, shapeAt es loc = shapeAt es' loc) →
    d = d'
  | .file c, d', _, _, hshape, _ => by
    cases d' with
    | file c' => cases hshape; rfl
    | folder es' => exact absurd hshape (by simp [Node.shape])
  | .folder es, d', ho, ho', hshape, hin => by
    cases d' with
    | file c' => exact absurd hshape (by simp [Node.shape])
    | folder es' => rw [Entries.eq_of_shapeAt ho ho' (hin es es' rfl rfl)]

theorem Entries.eq_of_shapeAt : ∀ {es es' : Entries}, Node.OrderedEntries es →
    Node.OrderedEntries es' → (∀ loc, shapeAt es loc = shapeAt es' loc) → es = es'
  | [], [], _, _, _ => rfl
  | [], (m, d') :: es', _, _, h => by
    have hm := h [m]
    rw [shapeAt_head] at hm
    exact absurd hm (by simp [shapeAt, find, get?])
  | (n, d) :: es, [], _, _, h => by
    have hn := h [n]
    rw [shapeAt_head] at hn
    exact absurd hn (by simp [shapeAt, find, get?])
  | (n, d) :: es, (m, d') :: es', ho, ho', h => by
    obtain ⟨hlt, hd, hrest⟩ := ho
    obtain ⟨hlt', hd', hrest'⟩ := ho'
    have hnm : ¬ n < m := by
      intro hnm
      have hn := h [n]
      rw [shapeAt_head, shapeAt_head_of_lt hnm hlt'] at hn
      exact absurd hn (by simp)
    have hmn : ¬ m < n := by
      intro hmn
      have hm := h [m]
      rw [shapeAt_head, shapeAt_head_of_lt hmn hlt] at hm
      exact absurd hm (by simp)
    have hname : n = m := by grind
    subst hname
    have hshape : d.shape = d'.shape := by
      have hn := h [n]
      rw [shapeAt_head, shapeAt_head] at hn
      exact Option.some.inj hn
    have hhead : d = d' := by
      refine Node.eq_of_shapes hd hd' hshape fun sub sub' hsub hsub' loc => ?_
      have hloc := h (n :: loc)
      subst hsub hsub'
      simpa only [shapeAt_cons, get?, if_true] using hloc
    have htail : es = es' := by
      refine Entries.eq_of_shapeAt hrest hrest' fun loc => ?_
      cases loc with
      | nil => rfl
      | cons k rest =>
        by_cases hk : k = n
        · subst hk
          rw [shapeAt_cons, shapeAt_cons, get?_eq_none_of_lt hlt, get?_eq_none_of_lt hlt']
        · have hloc := h (k :: rest)
          have hne : ¬ n = k := fun he => hk he.symm
          rw [shapeAt_cons, shapeAt_cons, get?, get?, if_neg hne, if_neg hne] at hloc
          rw [shapeAt_cons, shapeAt_cons]
          exact hloc
    rw [hhead, htail]

end

namespace Entries

/-! ## One entry set -/

theorem shapeAt_append {es sub : Entries} {a : Location} (ha : find es a = some (.folder sub))
    (b : Location) : shapeAt es (a ++ b) = shapeAt sub b := by
  unfold shapeAt
  rw [find_append, ha]

/-- What stands at and below a location where an entry was set. -/
theorem shapeAt_set_below {es sub : Entries} (hes : Node.OrderedEntries es) {a : Location}
    (ha : find es a = some (.folder sub)) (n : String) (o : Option Node) (rest : Location) :
    shapeAt (set es o (a ++ [n])) (a ++ n :: rest) =
      match o with
      | none => none
      | some (.file c) => if rest = [] then some (.file c) else none
      | some (.folder inner) => shapeAt inner rest := by
  have hsub : Node.OrderedEntries sub := ordered_of_find hes ha
  have habove := find_set_above hes ha (List.cons_ne_nil n []) o
  rw [shapeAt_append habove, shapeAt_cons]
  simp only [set, if_true]
  rw [get?_put_self hsub]

theorem shapeAt_set_of_not_below {es sub : Entries} (hes : Node.OrderedEntries es) {a : Location}
    (ha : find es a = some (.folder sub)) (n : String) (o : Option Node) {loc : Location}
    (hloc : ¬ a ++ [n] <+: loc) : shapeAt (set es o (a ++ [n])) loc = shapeAt es loc := by
  by_cases hup : loc <+: a ++ [n]
  · -- A folder above the entry stays a folder.
    obtain ⟨b, hb⟩ := hup
    have hbne : b ≠ [] := by
      intro hsame
      subst hsame
      rw [List.append_nil] at hb
      exact hloc (hb ▸ List.prefix_rfl)
    obtain ⟨b', x, rfl⟩ := List.eq_nil_or_concat b |>.resolve_left hbne
    have hsplit : loc ++ b' = a := by
      have heq : (loc ++ b') ++ [x] = a ++ [n] := by simpa using hb
      exact (List.append_inj' heq rfl).1
    subst hsplit
    rw [find_append] at ha
    cases hl : find es loc with
    | none => rw [hl] at ha; exact absurd ha (by simp)
    | some d =>
      cases d with
      | file c =>
        rw [hl] at ha
        by_cases hnil : b' = [] <;> simp [hnil] at ha
      | folder above =>
        have hset := find_set_above hes hl (by simp : b' ++ [n] ≠ []) o
        rw [List.append_assoc]
        unfold shapeAt
        rw [hset, hl]
        rfl
  · unfold shapeAt
    rw [find_set_of_apart hes hloc hup]

end Entries

namespace FileTree

def shapeAt (t : FileTree) (loc : Location) : Option Shape := t.entries.shapeAt loc

theorem shapeAt_nil (t : FileTree) : t.shapeAt [] = some .folder := rfl

theorem shapeAt_eq (t : FileTree) (loc : Location) : t.shapeAt loc = (t.find loc).map Node.shape :=
  rfl

theorem shapeAt_eq_none {t : FileTree} {loc : Location} :
    t.shapeAt loc = none ↔ t.find loc = none := by
  rw [shapeAt_eq, Option.map_eq_none_iff]

theorem shapeAt_eq_file {t : FileTree} {loc : Location} {c : ByteArray} :
    t.shapeAt loc = some (.file c) ↔ t.find loc = some (.file c) := by
  rw [shapeAt_eq]
  cases t.find loc with
  | none => simp
  | some d => cases d <;> simp [Node.shape]

theorem shapeAt_eq_folder {t : FileTree} {loc : Location} :
    t.shapeAt loc = some .folder ↔ ∃ es, t.find loc = some (.folder es) := by
  rw [shapeAt_eq]
  cases t.find loc with
  | none => simp
  | some d => cases d <;> simp [Node.shape]

theorem shapeAt_append {t : FileTree} {a : Location} {es : Entries}
    (ha : t.find a = some (.folder es)) (b : Location) : t.shapeAt (a ++ b) = es.shapeAt b :=
  Entries.shapeAt_append ha b

theorem ext_shapeAt {t t' : FileTree} (h : ∀ loc, t.shapeAt loc = t'.shapeAt loc) : t = t' := by
  obtain ⟨es, hes⟩ := t
  obtain ⟨es', hes'⟩ := t'
  have heq : es = es' := Entries.eq_of_shapeAt hes hes' h
  subst heq
  rfl

/-- What stands at a location is known by the shapes at and below it. -/
theorem find_eq_of_shapeAt {t t' : FileTree} {a : Location}
    (h : ∀ rest, t.shapeAt (a ++ rest) = t'.shapeAt (a ++ rest)) : t.find a = t'.find a := by
  have ha := h []
  rw [List.append_nil] at ha
  cases hs : t.shapeAt a with
  | none =>
    rw [shapeAt_eq_none.mp hs, shapeAt_eq_none.mp (ha ▸ hs)]
  | some sh =>
    cases sh with
    | file c => rw [shapeAt_eq_file.mp hs, shapeAt_eq_file.mp (ha ▸ hs)]
    | folder =>
      obtain ⟨es, hes⟩ := shapeAt_eq_folder.mp hs
      obtain ⟨es', hes'⟩ := shapeAt_eq_folder.mp (ha ▸ hs)
      have heq : es = es' := by
        refine Entries.eq_of_shapeAt (Entries.ordered_of_find t.ordered hes)
          (Entries.ordered_of_find t'.ordered hes') fun rest => ?_
        rw [← shapeAt_append hes, ← shapeAt_append hes']
        exact h rest
      rw [hes, hes', heq]

/-- Every location above an entry is a folder. -/
theorem shapeAt_above {t : FileTree} {a b : Location} (hb : b ≠ [])
    (h : t.shapeAt (a ++ b) ≠ none) : t.shapeAt a = some .folder := by
  rw [Ne, shapeAt_eq_none] at h
  unfold find at h
  rw [Entries.find_append] at h
  rw [shapeAt_eq_folder]
  cases hf : t.entries.find a with
  | none => rw [hf] at h; exact absurd rfl h
  | some d =>
    cases d with
    | file c => rw [hf] at h; simp [hb] at h
    | folder es => exact ⟨es, hf⟩

theorem shapeAt_of_above_eq_none {t : FileTree} {a : Location} (h : t.shapeAt a = none)
    (b : Location) : t.shapeAt (a ++ b) = none := by
  by_contra hne
  by_cases hb : b = []
  · subst hb
    exact hne (by rw [List.append_nil]; exact h)
  · have hfolder := shapeAt_above hb hne
    rw [h] at hfolder
    exact absurd hfolder (by simp)

theorem shapeAt_of_above_eq_file {t : FileTree} {a : Location} {c : ByteArray}
    (h : t.shapeAt a = some (.file c)) {b : Location} (hb : b ≠ []) :
    t.shapeAt (a ++ b) = none := by
  by_contra hne
  have hfolder := shapeAt_above hb hne
  rw [h] at hfolder
  exact absurd hfolder (by simp)

/-! ## Single changes -/

theorem shapeAt_setFile {t : FileTree} {a : Location} {n : String}
    (ha : t.shapeAt a = some .folder) (hn : t.shapeAt (a ++ [n]) ≠ some .folder)
    (content : ByteArray) :
    (t.setFile (a ++ [n]) content).shapeAt =
      Function.update t.shapeAt (a ++ [n]) (some (.file content)) := by
  obtain ⟨es, hes⟩ := shapeAt_eq_folder.mp ha
  funext loc
  by_cases hloc : a ++ [n] <+: loc
  · obtain ⟨rest, rfl⟩ := hloc
    have hbelow := Entries.shapeAt_set_below t.ordered hes n (some (.file content)) rest
    rw [List.append_assoc]
    refine Eq.trans hbelow ?_
    by_cases hrest : rest = []
    · subst hrest
      simp
    · have hold : t.shapeAt (a ++ [n] ++ rest) = none := by
        by_contra hne
        exact hn (shapeAt_above hrest hne)
      have hdiff : a ++ ([n] ++ rest) ≠ a ++ [n] := by simpa using hrest
      rw [Function.update_of_ne hdiff, ← List.append_assoc, hold]
      simp [hrest]
  · have hdiff : loc ≠ a ++ [n] := fun he => hloc (he ▸ List.prefix_rfl)
    rw [Function.update_of_ne hdiff]
    exact Entries.shapeAt_set_of_not_below t.ordered hes n _ hloc

theorem shapeAt_setEmptyFolder {t : FileTree} {a : Location} {n : String}
    (ha : t.shapeAt a = some .folder) (hn : t.shapeAt (a ++ [n]) = none) :
    (t.setEmptyFolder (a ++ [n])).shapeAt =
      Function.update t.shapeAt (a ++ [n]) (some .folder) := by
  obtain ⟨es, hes⟩ := shapeAt_eq_folder.mp ha
  funext loc
  by_cases hloc : a ++ [n] <+: loc
  · obtain ⟨rest, rfl⟩ := hloc
    have hbelow := Entries.shapeAt_set_below t.ordered hes n (some (.folder [])) rest
    rw [List.append_assoc]
    refine Eq.trans hbelow ?_
    by_cases hrest : rest = []
    · subst hrest
      simp [Entries.shapeAt_nil]
    · have hdiff : a ++ ([n] ++ rest) ≠ a ++ [n] := by simpa using hrest
      rw [Function.update_of_ne hdiff, ← List.append_assoc, shapeAt_of_above_eq_none hn]
      cases rest with
      | nil => exact absurd rfl hrest
      | cons k rest => rfl
  · have hdiff : loc ≠ a ++ [n] := fun he => hloc (he ▸ List.prefix_rfl)
    rw [Function.update_of_ne hdiff]
    exact Entries.shapeAt_set_of_not_below t.ordered hes n _ hloc

/-- Removing an entry takes away all that lies below it. -/
theorem shapeAt_remove {t : FileTree} {a : Location} {n : String}
    (ha : t.shapeAt a = some .folder) (loc : Location) :
    (t.remove (a ++ [n])).shapeAt loc = if a ++ [n] <+: loc then none else t.shapeAt loc := by
  obtain ⟨es, hes⟩ := shapeAt_eq_folder.mp ha
  by_cases hloc : a ++ [n] <+: loc
  · rw [if_pos hloc]
    obtain ⟨rest, rfl⟩ := hloc
    rw [List.append_assoc]
    exact Entries.shapeAt_set_below t.ordered hes n none rest
  · rw [if_neg hloc]
    exact Entries.shapeAt_set_of_not_below t.ordered hes n _ hloc

theorem shapeAt_remove_leaf {t : FileTree} {a : Location} {n : String}
    (ha : t.shapeAt a = some .folder) (hn : t.shapeAt (a ++ [n]) ≠ some .folder) :
    (t.remove (a ++ [n])).shapeAt = Function.update t.shapeAt (a ++ [n]) none := by
  funext loc
  rw [shapeAt_remove ha]
  by_cases hloc : a ++ [n] <+: loc
  · rw [if_pos hloc]
    obtain ⟨rest, rfl⟩ := hloc
    by_cases hrest : rest = []
    · subst hrest
      rw [List.append_nil, Function.update_self]
    · have hold : t.shapeAt (a ++ [n] ++ rest) = none := by
        by_contra hne
        exact hn (shapeAt_above hrest hne)
      have hdiff : a ++ [n] ++ rest ≠ a ++ [n] := by simpa using hrest
      rw [Function.update_of_ne hdiff, hold]
  · have hdiff : loc ≠ a ++ [n] := fun he => hloc (he ▸ List.prefix_rfl)
    rw [if_neg hloc, Function.update_of_ne hdiff]

end FileTree

end CardLogic
