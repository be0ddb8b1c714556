import CardLogic.FileTree.Operations
import CardLogic.Proofs.FileTree.View
import CardLogic.Proofs.Text.Lines

/-!
Where paths lead.

A walk asks the tree only which of the locations it passes are folders, so it ends in the
same place in every tree that kept those folders (`walk_of_kept`).  From a folder, names
that are no way up lead straight down (`walk_below`), also to places where nothing stands.
-/

namespace CardLogic

namespace Path

/-- The path of what lies at a location below a path. -/
def below (p : Path) (loc : Location) : Path := { p with segments := p.segments ++ loc }

theorem below_nil (p : Path) : p.below [] = p := by
  unfold below
  rw [List.append_nil]

theorem below_singleton (p : Path) (n : String) : p.below [n] = p.child n := rfl

theorem below_append (p : Path) (a b : Location) : p.below (a ++ b) = (p.below a).below b := by
  unfold below
  rw [List.append_assoc]

theorem below_cons (p : Path) (n : String) (loc : Location) :
    p.below (n :: loc) = (p.child n).below loc := p.below_append [n] loc

theorem below_inj {p : Path} {a b : Location} (h : p.below a = p.below b) : a = b := by
  unfold below at h
  injection h with _ hsegs
  exact List.append_cancel_left hsegs

theorem name_below_concat (p : Path) (loc : Location) (n : String) :
    (p.below (loc ++ [n])).name = n := by
  rw [below_append, below_singleton, name_child]

/-- The path can be handed to the operating system. -/
structure Fits (p : Path) : Prop where
  hasNull : p.hasNull = false
  short : p.toString.utf8ByteSize ≤ FileTree.pathLimit

theorem utf8ByteSize_toString_child (p : Path) (n : String) :
    p.toString.utf8ByteSize ≤ FileTree.pathLimit ∨
      p.toString.utf8ByteSize ≤ (p.child n).toString.utf8ByteSize := by
  obtain ⟨anchor, segments⟩ := p
  by_cases hs : segments = []
  · subst hs
    left
    cases anchor <;> decide
  · right
    unfold toString child
    rw [if_neg (by simp [hs]), if_neg (by simp)]
    rw [String.intercalate_append_of_ne_nil hs (by simp)]
    simp only [String.utf8ByteSize_append]
    omega

theorem hasNull_below {p : Path} {names : List String} (hp : p.hasNull = false)
    (hnames : ∀ n ∈ names, '\x00' ∉ n.toList) : (p.below names).hasNull = false := by
  unfold hasNull below at *
  rw [List.any_append, hp, Bool.false_or, List.any_eq_false]
  intro n hn
  simpa using hnames n hn

theorem Fits.of_child {p : Path} {n : String} (h : (p.child n).Fits) : p.Fits := by
  obtain ⟨hnull, hshort⟩ := h
  refine ⟨?_, ?_⟩
  · unfold Path.hasNull child at hnull
    rw [List.any_append, Bool.or_eq_false_iff] at hnull
    exact hnull.1
  · rcases utf8ByteSize_toString_child p n with h | h <;> omega

end Path

/-- The names that entries have. -/
structure LegalName (n : String) : Prop where
  ne_empty : n ≠ ""
  ne_here : n ≠ "."
  ne_up : n ≠ Path.up
  no_slash : '/' ∉ n.toList
  no_null : '\x00' ∉ n.toList
  short : n.utf8ByteSize ≤ FileTree.nameLimit

/-- Every segment is one that is left when the text of a path is cut. -/
def Path.Parsed (p : Path) : Prop := ∀ s ∈ p.segments, s ≠ "" ∧ s ≠ "." ∧ '/' ∉ s.toList

theorem Path.parsed_ofString (text : String) : (Path.ofString text).Parsed := by
  intro s hs
  unfold Path.ofString at hs
  obtain ⟨hmem, hne⟩ := List.mem_filter.mp hs
  obtain ⟨piece, hpiece, rfl⟩ := List.mem_map.mp hmem
  simp only [decide_eq_true_eq] at hne
  rw [String.toList_ofList]
  exact ⟨hne.1, hne.2, Text.not_mem_of_mem_pieces hpiece⟩

theorem Path.eq_child_of_segments {p : Path} {above : List String} {n : String}
    (h : p.segments = above ++ [n]) : p = p.parent.child n := by
  have hsegments : p.segments = p.segments.dropLast ++ [n] := by rw [h, List.dropLast_concat]
  unfold Path.parent Path.child
  dsimp only
  rw [← hsegments]

theorem Path.join_eq_child (p : Path) {n : String} (hempty : n ≠ "") (hhere : n ≠ ".")
    (hslash : '/' ∉ n.toList) : p.join n = p.child n := by
  have hanchor : Anchor.ofChars n.toList = .none := by
    cases hn : n.toList with
    | nil => rfl
    | cons c cs =>
      have hc : c ≠ '/' := fun he => hslash (by rw [hn, he]; exact List.mem_cons_self)
      simp [Anchor.ofChars, hc]
  have hpieces : Text.pieces '/' n.toList = [n.toList] := Text.pieces_of_not_mem hslash
  have hof : Path.ofString n = ⟨.none, [n]⟩ := by
    unfold Path.ofString
    rw [hanchor, hpieces]
    simp [hempty, hhere]
  unfold Path.join Path.append Path.child
  rw [hof]
  rfl

instance (n : String) : Decidable (LegalName n) :=
  decidable_of_iff (n ≠ "" ∧ n ≠ "." ∧ n ≠ Path.up ∧ '/' ∉ n.toList ∧ '\x00' ∉ n.toList ∧
      n.utf8ByteSize ≤ FileTree.nameLimit)
    ⟨fun ⟨h1, h2, h3, h4, h5, h6⟩ => ⟨h1, h2, h3, h4, h5, h6⟩,
      fun ⟨h1, h2, h3, h4, h5, h6⟩ => ⟨h1, h2, h3, h4, h5, h6⟩⟩

mutual

/-- The names of all entries at and below an entry. -/
def Node.names : Node → List String
  | .file _ => []
  | .folder es => Entries.names es

def Entries.names : Entries → List String
  | [] => []
  | (n, d) :: es => n :: (d.names ++ Entries.names es)

end

theorem Entries.mem_names {es : Entries} {loc : Location} {n : String}
    (h : Entries.shapeAt es (loc ++ [n]) ≠ none) : n ∈ Entries.names es := by
  -- What stands at the location stands in one of the entries.
  have hentry : ∀ (es : Entries) (m : String) (d : Node), get? es m = some d →
      m ∈ Entries.names es ∧ ∀ x ∈ d.names, x ∈ Entries.names es := by
    intro es m d hget
    induction es with
    | nil => exact absurd hget (by simp [get?])
    | cons e es ih =>
      obtain ⟨k, d'⟩ := e
      rw [get?] at hget
      rw [Entries.names]
      by_cases hk : k = m
      · rw [if_pos hk] at hget
        cases hget
        exact ⟨by simp [hk], fun x hx => by simp [hx]⟩
      · rw [if_neg hk] at hget
        obtain ⟨hm, hd⟩ := ih hget
        exact ⟨by simp [hm], fun x hx => by simp [hd x hx]⟩
  induction loc generalizing es with
  | nil =>
    rw [List.nil_append, shapeAt_singleton] at h
    cases hget : get? es n with
    | none => rw [hget] at h; exact absurd rfl h
    | some d => exact (hentry es n d hget).1
  | cons m rest ih =>
    rw [List.cons_append, shapeAt_cons] at h
    cases hget : get? es m with
    | none => rw [hget] at h; exact absurd rfl h
    | some d =>
      rw [hget] at h
      cases d with
      | file c => exact absurd (by simp) h
      | folder sub => exact (hentry es m _ hget).2 n (ih h)

namespace FileTree

/-- Every entry has a name that entries have. -/
def LegalNames (t : FileTree) : Prop :=
  ∀ loc n, t.shapeAt (loc ++ [n]) ≠ none → LegalName n

theorem legalNames_of_names {t : FileTree} (h : ∀ n ∈ Entries.names t.entries, LegalName n) :
    t.LegalNames :=
  fun _ n hn => h n (Entries.mem_names hn)

/-! ## Walks -/

theorem walk_nil (t : FileTree) (here : Location) : t.walk here [] = .ok here := rfl

theorem walk_cons_of_folder {t : FileTree} {here : Location} (h : t.shapeAt here = some .folder)
    (s : String) (rest : List String) :
    t.walk here (s :: rest) =
      if s = Path.up then t.walk here.dropLast rest
      else if nameLimit < s.utf8ByteSize then .error .nameTooLong
      else t.walk (here ++ [s]) rest := by
  obtain ⟨es, hes⟩ := shapeAt_eq_folder.mp h
  rw [walk, hes]

theorem shapeAt_of_walk_cons {t : FileTree} {here loc : Location} {s : String}
    {rest : List String} (h : t.walk here (s :: rest) = .ok loc) :
    t.shapeAt here = some .folder := by
  rw [walk] at h
  rw [shapeAt_eq_folder]
  cases hf : t.find here with
  | none => rw [hf] at h; exact absurd h (by simp)
  | some d =>
    cases d with
    | file c => rw [hf] at h; exact absurd h (by simp)
    | folder es => exact ⟨es, rfl⟩

theorem walk_append (t : FileTree) (here : Location) (a b : List String) :
    t.walk here (a ++ b) =
      match t.walk here a with
      | .ok loc => t.walk loc b
      | .error f => .error f := by
  induction a generalizing here with
  | nil => rfl
  | cons s rest ih =>
    rw [List.cons_append, walk, walk]
    cases t.find here with
    | none => rfl
    | some d =>
      cases d with
      | file c => rfl
      | folder es =>
        by_cases hup : s = Path.up
        · simp only [if_pos hup]
          exact ih _
        · by_cases hlong : nameLimit < s.utf8ByteSize
          · simp only [if_neg hup, if_pos hlong]
          · simp only [if_neg hup, if_neg hlong]
            exact ih _

theorem walk_append_of_ok {t : FileTree} {here loc : Location} {a : List String}
    (h : t.walk here a = .ok loc) (b : List String) : t.walk here (a ++ b) = t.walk loc b := by
  rw [walk_append, h]

theorem ok_of_walk_append {t : FileTree} {here loc : Location} {a b : List String}
    (h : t.walk here (a ++ b) = .ok loc) :
    ∃ mid, t.walk here a = .ok mid ∧ t.walk mid b = .ok loc := by
  rw [walk_append] at h
  cases ha : t.walk here a with
  | error f => rw [ha] at h; exact absurd h (by simp)
  | ok mid => rw [ha] at h; exact ⟨mid, rfl, h⟩

/-- The beginning of a walk to a folder leads to a folder. -/
theorem exists_walk_of_prefix {t : FileTree} {here loc : Location} {pre segs : List String}
    (hpre : pre <+: segs) (h : t.walk here segs = .ok loc) (hloc : t.shapeAt loc = some .folder) :
    ∃ mid, t.walk here pre = .ok mid ∧ t.shapeAt mid = some .folder := by
  obtain ⟨rest, rfl⟩ := hpre
  obtain ⟨mid, hmid, hrest⟩ := ok_of_walk_append h
  refine ⟨mid, hmid, ?_⟩
  cases rest with
  | nil =>
    cases hrest
    exact hloc
  | cons s rest => exact shapeAt_of_walk_cons hrest

/-- A walk through folders of two trees goes the same way in a tree that kept the folders
they share. -/
theorem walk_of_kept_both {t t₀ t' : FileTree}
    (hkept : ∀ loc, t₀.shapeAt loc = some .folder → t.shapeAt loc = some .folder →
      t'.shapeAt loc = some .folder)
    {here loc loc₀ : Location} {segs : List String} (h₀ : t₀.walk here segs = .ok loc₀)
    (h : t.walk here segs = .ok loc) : t'.walk here segs = .ok loc := by
  induction segs generalizing here with
  | nil => exact h
  | cons s rest ih =>
    have hhere₀ := shapeAt_of_walk_cons h₀
    have hhere := shapeAt_of_walk_cons h
    rw [walk_cons_of_folder hhere₀] at h₀
    rw [walk_cons_of_folder hhere] at h
    rw [walk_cons_of_folder (hkept here hhere₀ hhere)]
    by_cases hup : s = Path.up
    · rw [if_pos hup] at h₀ h ⊢
      exact ih h₀ h
    · by_cases hlong : nameLimit < s.utf8ByteSize
      · rw [if_neg hup, if_pos hlong] at h
        exact absurd h (by simp)
      · rw [if_neg hup, if_neg hlong] at h₀ h ⊢
        exact ih h₀ h

theorem walk_of_kept {t t' : FileTree}
    (hkept : ∀ loc, t.shapeAt loc = some .folder → t'.shapeAt loc = some .folder)
    {here loc : Location} {segs : List String} (h : t.walk here segs = .ok loc) :
    t'.walk here segs = .ok loc :=
  walk_of_kept_both (fun loc hloc _ => hkept loc hloc) h h

theorem shapeAt_dropLast {t : FileTree} {loc : Location} (h : t.shapeAt loc = some .folder) :
    t.shapeAt loc.dropLast = some .folder := by
  rcases List.eq_nil_or_concat loc with rfl | ⟨a, n, rfl⟩
  · exact h
  · rw [List.concat_eq_append, List.dropLast_concat]
    rw [List.concat_eq_append] at h
    exact shapeAt_above (List.cons_ne_nil n []) (by rw [h]; simp)

/-- A walk from a folder ends at a folder or right below one. -/
theorem walk_lands {t : FileTree} {here loc : Location} {segs : List String}
    (hhere : t.shapeAt here = some .folder) (h : t.walk here segs = .ok loc) :
    t.shapeAt loc = some .folder ∨
      ∃ a n, loc = a ++ [n] ∧ t.shapeAt a = some .folder := by
  induction segs generalizing here with
  | nil =>
    cases h
    exact Or.inl hhere
  | cons s rest ih =>
    rw [walk_cons_of_folder hhere] at h
    by_cases hup : s = Path.up
    · rw [if_pos hup] at h
      exact ih (shapeAt_dropLast hhere) h
    · by_cases hlong : nameLimit < s.utf8ByteSize
      · rw [if_neg hup, if_pos hlong] at h
        exact absurd h (by simp)
      · rw [if_neg hup, if_neg hlong] at h
        cases rest with
        | nil =>
          cases h
          exact Or.inr ⟨here, s, rfl, hhere⟩
        | cons s' rest => exact ih (shapeAt_of_walk_cons h) h

/-- The names that a walk adds come from its segments. -/
theorem mem_of_walk {t : FileTree} {here loc : Location} {segs : List String}
    (h : t.walk here segs = .ok loc) {n : String} (hn : n ∈ loc) :
    n ∈ here ∨ (n ∈ segs ∧ n ≠ Path.up ∧ n.utf8ByteSize ≤ nameLimit) := by
  induction segs generalizing here with
  | nil =>
    cases h
    exact Or.inl hn
  | cons s rest ih =>
    rw [walk_cons_of_folder (shapeAt_of_walk_cons h)] at h
    by_cases hup : s = Path.up
    · rw [if_pos hup] at h
      rcases ih h with hhere | ⟨hrest, hlegal⟩
      · exact Or.inl (List.dropLast_subset here hhere)
      · exact Or.inr ⟨List.mem_cons_of_mem s hrest, hlegal⟩
    · by_cases hlong : nameLimit < s.utf8ByteSize
      · rw [if_neg hup, if_pos hlong] at h
        exact absurd h (by simp)
      · rw [if_neg hup, if_neg hlong] at h
        rcases ih h with hhere | ⟨hrest, hlegal⟩
        · rcases List.mem_append.mp hhere with hhere | hs
          · exact Or.inl hhere
          · rw [List.mem_singleton.mp hs]
            exact Or.inr ⟨List.mem_cons_self, hup, by omega⟩
        · exact Or.inr ⟨List.mem_cons_of_mem s hrest, hlegal⟩

theorem walk_singleton {t : FileTree} {here : Location} (h : t.shapeAt here = some .folder)
    {n : String} (hup : n ≠ Path.up) (hshort : n.utf8ByteSize ≤ nameLimit) :
    t.walk here [n] = .ok (here ++ [n]) := by
  rw [walk_cons_of_folder h, if_neg hup, if_neg (by omega), walk_nil]

theorem of_walk_singleton {t : FileTree} {here loc : Location} {n : String} (hup : n ≠ Path.up)
    (h : t.walk here [n] = .ok loc) :
    t.shapeAt here = some .folder ∧ n.utf8ByteSize ≤ nameLimit ∧ loc = here ++ [n] := by
  have hhere := shapeAt_of_walk_cons h
  rw [walk_cons_of_folder hhere, if_neg hup] at h
  by_cases hlong : nameLimit < n.utf8ByteSize
  · rw [if_pos hlong] at h
    exact absurd h (by simp)
  · rw [if_neg hlong, walk_nil] at h
    cases h
    exact ⟨hhere, by omega, rfl⟩

/-- Names lead from a folder to what lies below it, as far as there is anything. -/
theorem walk_below {t : FileTree} {here : Location} {names : List String}
    (hhere : t.shapeAt here = some .folder)
    (hnames : ∀ n ∈ names, n ≠ Path.up ∧ n.utf8ByteSize ≤ nameLimit) :
    t.walk here names = .ok (here ++ names) ∨
      ((∃ f, t.walk here names = .error f ∧ f ≠ .nameTooLong) ∧
        t.shapeAt (here ++ names) = none) := by
  induction names generalizing here with
  | nil =>
    left
    rw [walk_nil, List.append_nil]
  | cons n rest ih =>
    obtain ⟨hup, hshort⟩ := hnames n List.mem_cons_self
    have hrest : ∀ m ∈ rest, m ≠ Path.up ∧ m.utf8ByteSize ≤ nameLimit :=
      fun m hm => hnames m (List.mem_cons_of_mem n hm)
    have hassoc : here ++ n :: rest = here ++ [n] ++ rest := by simp
    rw [walk_cons_of_folder hhere, if_neg hup, if_neg (by omega), hassoc]
    cases hn : t.shapeAt (here ++ [n]) with
    | none =>
      cases rest with
      | nil => exact Or.inl (by rw [walk_nil, List.append_nil])
      | cons s rest =>
        refine Or.inr ⟨⟨.missing, ?_, by decide⟩, shapeAt_of_above_eq_none hn _⟩
        rw [walk, shapeAt_eq_none.mp hn]
    | some sh =>
      cases sh with
      | folder => exact ih hn hrest
      | file c =>
        cases rest with
        | nil => exact Or.inl (by rw [walk_nil, List.append_nil])
        | cons s rest =>
          refine Or.inr ⟨⟨.notAFolder, ?_, by decide⟩, shapeAt_of_above_eq_file hn (by simp)⟩
          rw [walk, shapeAt_eq_file.mp hn]

/-! ## Paths -/

theorem resolve_eq_ok {t : FileTree} {p : Path} {loc : Location} :
    t.resolve p = .ok loc ↔ p.Fits ∧ t.walk [] p.segments = .ok loc := by
  unfold resolve
  by_cases hnull : p.hasNull = true
  · rw [if_pos hnull]
    refine ⟨fun h => absurd h (by simp), fun h => ?_⟩
    have := h.1.hasNull
    rw [hnull] at this
    exact absurd this (by simp)
  · rw [if_neg hnull]
    by_cases hlong : pathLimit < p.toString.utf8ByteSize
    · rw [if_pos hlong]
      refine ⟨fun h => absurd h (by simp), fun h => ?_⟩
      have := h.1.short
      omega
    · rw [if_neg hlong]
      exact ⟨fun h => ⟨⟨by simpa using hnull, by omega⟩, h⟩, fun h => h.2⟩

theorem resolve_of_kept {t t' : FileTree}
    (hkept : ∀ loc, t.shapeAt loc = some .folder → t'.shapeAt loc = some .folder)
    {p : Path} {loc : Location} (h : t.resolve p = .ok loc) : t'.resolve p = .ok loc := by
  rw [resolve_eq_ok] at h ⊢
  exact ⟨h.1, walk_of_kept hkept h.2⟩

theorem readBytes_of_file {t : FileTree} {p : Path} {loc : Location} {content : ByteArray}
    (hr : t.resolve p = .ok loc) (h : t.shapeAt loc = some (.file content)) :
    t.readBytes p = .ok content := by
  unfold readBytes locate
  rw [hr]
  dsimp only
  rw [shapeAt_eq_file.mp h]

/-- The path of a folder, and where the folder is. -/
structure FolderAt (t : FileTree) (p : Path) (loc : Location) : Prop where
  resolve : t.resolve p = .ok loc
  shape : t.shapeAt loc = some .folder

namespace FolderAt

variable {t t' : FileTree} {p : Path} {loc : Location} {n : String}

theorem fits (h : FolderAt t p loc) : p.Fits := (resolve_eq_ok.mp h.resolve).1

theorem of_kept (hkept : ∀ loc, t.shapeAt loc = some .folder → t'.shapeAt loc = some .folder)
    (h : FolderAt t p loc) : FolderAt t' p loc :=
  ⟨resolve_of_kept hkept h.resolve, hkept loc h.shape⟩

theorem of_kept_both {t₀ : FileTree} {loc₀ : Location}
    (hkept : ∀ loc, t₀.shapeAt loc = some .folder → t.shapeAt loc = some .folder →
      t'.shapeAt loc = some .folder)
    (h₀ : FolderAt t₀ p loc₀) (h : FolderAt t p loc) (hloc : t'.shapeAt loc = some .folder) :
    FolderAt t' p loc := by
  have hwalk₀ := (resolve_eq_ok.mp h₀.resolve).2
  have hwalk := (resolve_eq_ok.mp h.resolve).2
  exact ⟨resolve_eq_ok.mpr ⟨h.fits, walk_of_kept_both hkept hwalk₀ hwalk⟩, hloc⟩

theorem resolve_child (h : FolderAt t p loc) (hup : n ≠ Path.up)
    (hshort : n.utf8ByteSize ≤ nameLimit) (hfits : (p.child n).Fits) :
    t.resolve (p.child n) = .ok (loc ++ [n]) := by
  rw [resolve_eq_ok]
  refine ⟨hfits, ?_⟩
  have hp := (resolve_eq_ok.mp h.resolve).2
  exact (walk_append_of_ok hp [n]).trans (walk_singleton h.shape hup hshort)

theorem of_resolve_child (hup : n ≠ Path.up) (h : t.resolve (p.child n) = .ok loc) :
    ∃ a, FolderAt t p a ∧ n.utf8ByteSize ≤ nameLimit ∧ loc = a ++ [n] := by
  rw [resolve_eq_ok] at h
  obtain ⟨a, ha, han⟩ := ok_of_walk_append (show t.walk [] (p.segments ++ [n]) = .ok loc from h.2)
  obtain ⟨hfolder, hshort, rfl⟩ := of_walk_singleton hup han
  exact ⟨a, ⟨resolve_eq_ok.mpr ⟨h.1.of_child, ha⟩, hfolder⟩, hshort, rfl⟩

/-- The folder that a path of an entry below leads to. -/
theorem of_child (hup : n ≠ Path.up) (h : FolderAt t (p.child n) loc) :
    ∃ a, FolderAt t p a ∧ loc = a ++ [n] := by
  obtain ⟨a, ha, -, rfl⟩ := of_resolve_child hup h.resolve
  exact ⟨a, ha, rfl⟩

end FolderAt

theorem isFolder_eq_true {t : FileTree} {p : Path} :
    t.isFolder p = .ok true ↔ ∃ loc, FolderAt t p loc := by
  unfold isFolder entry?
  cases hr : t.resolve p with
  | error f =>
    have hno : ¬ ∃ loc, FolderAt t p loc := by
      intro hfolder
      obtain ⟨loc, hloc, -⟩ := hfolder
      rw [hr] at hloc
      exact absurd hloc (by simp)
    cases f <;> simp [Except.map, hno]
  | ok loc =>
    have hiff : (∃ loc, FolderAt t p loc) ↔ t.shapeAt loc = some .folder := by
      constructor
      · intro hfolder
        obtain ⟨loc', hloc', hshape⟩ := hfolder
        rw [hr] at hloc'
        cases hloc'
        exact hshape
      · exact fun h => ⟨loc, hr, h⟩
    rw [hiff, shapeAt_eq]
    simp only [Except.map]
    cases t.find loc with
    | none => simp
    | some d => cases d <;> simp [Node.isFolder, Node.shape]

theorem isFile_eq_true {t : FileTree} {p : Path} :
    t.isFile p = .ok true ↔
      ∃ loc content, t.resolve p = .ok loc ∧ t.shapeAt loc = some (.file content) := by
  unfold isFile entry?
  cases hr : t.resolve p with
  | error f => cases f <;> simp [Except.map]
  | ok loc =>
    simp only [Except.map, shapeAt_eq_file, Except.ok.injEq, exists_and_left, exists_eq_left']
    cases t.find loc with
    | none => simp
    | some d => cases d <;> simp [Node.isFile]

/-- What stands at a path below a folder, unless the path is too long to ask. -/
theorem entry?_below {t : FileTree} {p : Path} {loc : Location} (h : FolderAt t p loc)
    {names : List String} (hnames : ∀ n ∈ names, LegalName n) :
    t.entry? (p.below names) =
      if pathLimit < (p.below names).toString.utf8ByteSize
      then .error ⟨.nameTooLong, p.below names, none⟩ else .ok (t.find (loc ++ names)) := by
  have hnull : (p.below names).hasNull = false :=
    Path.hasNull_below h.fits.hasNull fun n hn => (hnames n hn).no_null
  have hwalk : t.walk [] (p.below names).segments = t.walk loc names :=
    walk_append_of_ok (resolve_eq_ok.mp h.resolve).2 names
  unfold entry? resolve
  rw [if_neg (by rw [hnull]; simp)]
  by_cases hlong : pathLimit < (p.below names).toString.utf8ByteSize
  · rw [if_pos hlong, if_pos hlong]
  · rw [if_neg hlong, if_neg hlong, hwalk]
    rcases walk_below h.shape (fun n hn => ⟨(hnames n hn).ne_up, (hnames n hn).short⟩) with
      hok | ⟨⟨f, hf, hne⟩, hnone⟩
    · rw [hok]
    · rw [hf, shapeAt_eq_none.mp hnone]
      cases f <;> first | rfl | exact absurd rfl hne

end FileTree

end CardLogic
