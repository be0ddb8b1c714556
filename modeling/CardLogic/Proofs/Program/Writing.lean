import CardLogic.Program.Writing
import CardLogic.Proofs.FileTree.Effects

/-!
What writing program files does to a tree.

A file's slot is the folder and the name its path leads to.  If the folders on the way cannot be
made, nothing else is done.  If they are there, writing the file ends in one of four ways
(`write_cases`, `write_ends`), and all that is known of a write follows from these: the file
cannot be begun, and nothing happened; it is begun and its text cannot be written, and an empty
file stays under the temporary name; it cannot be moved to its place, and nothing is left under the
temporary name; or it stands at its place, and nothing under the temporary name.  The last is so
just if the slot has room (`write_of_room`, `ok_of_write`).
-/

namespace CardLogic

/-- A file stands that holds a text, all of it. -/
def Text.StandsIn (text : Text) (sh : Option Shape) : Prop :=
  text.isWhole = true ∧ sh = some (.file (bytesOf text))

namespace ProgramFile

open FileTree

/-- Where a file goes. -/
structure Slot where
  folder : Location
  name : String
  deriving DecidableEq

namespace Slot

def target (s : Slot) : Location := s.folder ++ [s.name]

def temporary (tag : String) (s : Slot) : Location := s.folder ++ [temporaryName tag s.name]

theorem target_inj {s s' : Slot} (h : s.target = s'.target) : s = s' := by
  obtain ⟨a, n⟩ := s
  obtain ⟨a', n'⟩ := s'
  have h' := List.append_inj' h rfl
  simp only [List.cons.injEq, and_true] at h'
  rw [h'.1, h'.2]

end Slot

/-- The slot that a file's path leads to. -/
structure HasSlot (t : FileTree) (f : ProgramFile) (s : Slot) : Prop where
  ne_up : s.name ≠ Path.up
  folder : FolderAt t f.path.parent s.folder
  path : f.path = f.path.parent.child s.name

/-- The slot that a file's path leads to, if the folder is there. -/
structure Leads (f : ProgramFile) (s : Slot) : Prop where
  ne_up : s.name ≠ Path.up
  path : f.path = f.path.parent.child s.name
  folder : f.path.parent.location = s.folder

/-- Nothing keeps a file from being begun under its temporary name. -/
structure Begins (tag : String) (t : FileTree) (f : ProgramFile) (s : Slot) : Prop where
  fits : (f.temporaryPath tag).Fits
  short : (temporaryName tag s.name).utf8ByteSize ≤ nameLimit
  temporary : t.shapeAt (s.temporary tag) ≠ some .folder

/-- Nothing keeps a file from its slot. -/
structure HasRoom (tag : String) (t : FileTree) (f : ProgramFile) (s : Slot) : Prop extends
    Begins tag t f s where
  whole : f.text.isWhole = true
  target : t.shapeAt s.target ≠ some .folder

/-- The shapes of a tree after a text was put into a slot. -/
def put (tag : String) (s : Slot) (text : Text) (shapes : Location → Option Shape) :
    Location → Option Shape :=
  Function.update (Function.update shapes (s.temporary tag) none) s.target
    (some (.file (bytesOf text)))

/-- How writing a file ends whose folder is there. -/
inductive WriteEnds (tag : String) (f : ProgramFile) (s : Slot) (t : FileTree) :
    EStateM.Result FileError FileTree Unit → Prop
  /-- The file cannot be begun under its temporary name. -/
  | notBegun {e : FileError}
      (error : t.writeBytes (f.temporaryPath tag) (bytesOf f.text) = .error e) :
      WriteEnds tag f s t (.error e t)
  /-- The text cannot be written, and the file that was begun is left. -/
  | notEncoded {halves : Text.Halves} {t' : FileTree} (begins : Begins tag t f s)
      (text : f.text.halves? = some halves)
      (shape : t'.shapeAt =
        Function.update t.shapeAt (s.temporary tag) (some (.file (bytesOf f.text)))) :
      WriteEnds tag f s t (.error ⟨.notEncodable halves, f.temporaryPath tag, none⟩ t')
  /-- A folder stands at the file's place. -/
  | notMoved {t' : FileTree} (begins : Begins tag t f s) (whole : f.text.isWhole = true)
      (target : t.shapeAt s.target = some .folder)
      (shape : t'.shapeAt = Function.update t.shapeAt (s.temporary tag) none) :
      WriteEnds tag f s t (.error ⟨.isAFolder, f.temporaryPath tag, some f.path⟩ t')
  | written {t' : FileTree} (room : HasRoom tag t f s)
      (shape : t'.shapeAt = put tag s f.text t.shapeAt) : WriteEnds tag f s t (.ok () t')

/-! ## Names -/

theorem utf8ByteSize_temporaryName (tag n : String) :
    n.utf8ByteSize + 6 ≤ (temporaryName tag n).utf8ByteSize := by
  unfold temporaryName
  simp only [String.utf8ByteSize_append]
  have hdot : ".".utf8ByteSize = 1 := by decide
  have htmp : ".tmp-".utf8ByteSize = 5 := by decide
  omega

theorem temporaryName_ne (tag n : String) : temporaryName tag n ≠ n := by
  intro h
  have hsize := utf8ByteSize_temporaryName tag n
  rw [h] at hsize
  omega

theorem temporaryName_ne_up (tag n : String) : temporaryName tag n ≠ Path.up := by
  intro h
  have hsize := utf8ByteSize_temporaryName tag n
  have hup : Path.up.utf8ByteSize = 2 := by decide
  rw [h] at hsize
  omega

theorem temporaryName_inj {tag n m : String} (h : temporaryName tag n = temporaryName tag m) :
    n = m := by
  have hchars := congrArg String.toList h
  unfold temporaryName at hchars
  simp only [String.toList_append, List.append_cancel_left_eq, List.append_cancel_right_eq]
    at hchars
  exact String.toList_inj.mp hchars

theorem temporary_ne_target (tag : String) (s : Slot) : s.temporary tag ≠ s.target := by
  intro h
  have hlast := (List.append_inj' h rfl).2
  simp only [List.cons.injEq, and_true] at hlast
  exact temporaryName_ne tag s.name hlast

variable {tag : String} {t t' : FileTree} {f : ProgramFile} {s : Slot}

theorem temporaryPath_of_path (h : f.path = f.path.parent.child s.name) :
    f.temporaryPath tag = f.path.parent.child (temporaryName tag s.name) := by
  have hname : f.path.name = s.name := by rw [h, Path.name_child]
  unfold ProgramFile.temporaryPath
  rw [hname]
  rfl

theorem HasSlot.name_ne_up (h : HasSlot t f s) : f.path.name ≠ Path.up := by
  rw [h.path, Path.name_child]
  exact h.ne_up

theorem HasSlot.temporaryPath (h : HasSlot t f s) :
    f.temporaryPath tag = f.path.parent.child (temporaryName tag s.name) :=
  temporaryPath_of_path h.path

theorem Leads.temporaryPath (h : Leads f s) :
    f.temporaryPath tag = f.path.parent.child (temporaryName tag s.name) :=
  temporaryPath_of_path h.path

theorem hasNull_of_temporary {p : Path} {n : String}
    (h : (p.child (temporaryName tag n)).hasNull = false) : (p.child n).hasNull = false := by
  unfold Path.hasNull Path.child at h ⊢
  rw [List.any_append, Bool.or_eq_false_iff] at h ⊢
  refine ⟨h.1, ?_⟩
  have hn := h.2
  simp only [List.any_cons, List.any_nil, Bool.or_false, decide_eq_false_iff_not,
    temporaryName, String.toList_append, List.mem_append, not_or] at hn ⊢
  exact hn.1.1.2

/-- A path that fits as a temporary one fits as the file's own. -/
theorem fits_of_temporary {p : Path} {n : String} (h : (p.child (temporaryName tag n)).Fits) :
    (p.child n).Fits := by
  have hsize := utf8ByteSize_temporaryName tag n
  obtain ⟨hnull, hshort⟩ := h
  refine ⟨hasNull_of_temporary hnull, ?_⟩
  · have hsegs : p.segments ++ [n] ≠ [] := by simp
    have hsegs' : p.segments ++ [temporaryName tag n] ≠ [] := by simp
    unfold Path.toString Path.child at hshort ⊢
    rw [if_neg (by simp)] at hshort ⊢
    by_cases hs : p.segments = []
    · rw [hs] at hshort ⊢
      simp only [List.nil_append, String.intercalate_singleton, String.utf8ByteSize_append]
        at hshort ⊢
      omega
    · rw [String.intercalate_append_of_ne_nil hs (by simp), String.intercalate_singleton]
        at hshort ⊢
      simp only [String.utf8ByteSize_append] at hshort ⊢
      omega

theorem HasSlot.resolve_temporary (h : HasSlot t f s) (hfits : (f.temporaryPath tag).Fits)
    (hshort : (temporaryName tag s.name).utf8ByteSize ≤ nameLimit) :
    t.resolve (f.temporaryPath tag) = .ok (s.temporary tag) := by
  rw [h.temporaryPath] at hfits ⊢
  exact h.folder.resolve_child (temporaryName_ne_up tag s.name) hshort hfits

theorem HasSlot.resolve_target (h : HasSlot t f s) (hfits : (f.temporaryPath tag).Fits)
    (hshort : (temporaryName tag s.name).utf8ByteSize ≤ nameLimit) :
    t.resolve f.path = .ok s.target := by
  have hsize := utf8ByteSize_temporaryName tag s.name
  rw [h.temporaryPath] at hfits
  rw [h.path]
  exact h.folder.resolve_child h.ne_up (by omega) (fits_of_temporary hfits)

theorem Leads.location (h : Leads f s) : f.path.location = s.target := by
  rw [h.path, Path.location_child _ h.ne_up, h.folder]
  rfl

theorem Leads.location_temporary (h : Leads f s) :
    (f.temporaryPath tag).location = s.temporary tag := by
  rw [h.temporaryPath, Path.location_child _ (temporaryName_ne_up tag s.name), h.folder]
  rfl

theorem Leads.hasSlot {loc : Location} (h : Leads f s) (hfolder : FolderAt t f.path.parent loc) :
    HasSlot t f s := by
  have hloc : loc = s.folder := hfolder.location_eq.symm.trans h.folder
  subst hloc
  exact ⟨h.ne_up, hfolder, h.path⟩

theorem HasSlot.leads (h : HasSlot t f s) : Leads f s :=
  ⟨h.ne_up, h.path, h.folder.location_eq⟩

theorem HasSlot.of_kept
    (hkept : ∀ loc, t.shapeAt loc = some .folder → t'.shapeAt loc = some .folder)
    (h : HasSlot t f s) : HasSlot t' f s :=
  ⟨h.ne_up, h.folder.of_kept hkept, h.path⟩

theorem folders_kept_of_update {loc : Location} {sh : Option Shape}
    (hloc : t.shapeAt loc ≠ some .folder) (h : t'.shapeAt = Function.update t.shapeAt loc sh)
    (other : Location) (hother : t.shapeAt other = some .folder) :
    t'.shapeAt other = some .folder := by
  have hdiff : other ≠ loc := by
    intro heq
    subst heq
    exact hloc hother
  rw [h, Function.update_of_ne hdiff, hother]

/-! ## One file -/

theorem writeBytes_ok {p : Path} {a : Location} {n : String} {c : ByteArray}
    (hr : t.resolve p = .ok (a ++ [n])) (ha : t.shapeAt a = some .folder)
    (h : t.writeBytes p c = .ok t') :
    t.shapeAt (a ++ [n]) ≠ some .folder ∧
      t'.shapeAt = Function.update t.shapeAt (a ++ [n]) (some (.file c)) := by
  unfold writeBytes locate at h
  rw [hr] at h
  dsimp only at h
  have hn : t.shapeAt (a ++ [n]) ≠ some .folder := by
    intro hfolder
    obtain ⟨es, hes⟩ := shapeAt_eq_folder.mp hfolder
    rw [hes] at h
    exact absurd h (by simp)
  refine ⟨hn, ?_⟩
  have heq : t' = t.setFile (a ++ [n]) c := by
    cases hfind : t.find (a ++ [n]) with
    | none => rw [hfind] at h; cases h; rfl
    | some d =>
      cases d with
      | file c' => rw [hfind] at h; cases h; rfl
      | folder es => exact absurd (shapeAt_eq_folder.mpr ⟨es, hfind⟩) hn
  rw [heq, shapeAt_setFile ha hn]

theorem writeBytes_of_ne_folder {p : Path} {loc : Location} (hr : t.resolve p = .ok loc)
    (h : t.shapeAt loc ≠ some .folder) (c : ByteArray) :
    t.writeBytes p c = .ok (t.setFile loc c) := by
  unfold writeBytes locate
  rw [hr]
  dsimp only
  cases hfind : t.find loc with
  | none => rfl
  | some d =>
    cases d with
    | file c' => rfl
    | folder es => exact absurd (shapeAt_eq_folder.mpr ⟨es, hfind⟩) h

/-- A file moved beside itself. -/
theorem moveFile_of_file {source target : Path} {a : Location} {m n : String} {c : ByteArray}
    (hs : t.resolve source = .ok (a ++ [m])) (ht : t.resolve target = .ok (a ++ [n]))
    (hup : target.name ≠ Path.up) (hmn : a ++ [m] ≠ a ++ [n])
    (hfile : t.shapeAt (a ++ [m]) = some (.file c))
    (hfolder : t.shapeAt (a ++ [n]) ≠ some .folder) :
    t.moveFile source target = .ok ((t.remove (a ++ [m])).setFile (a ++ [n]) c) := by
  unfold moveFile
  rw [hs, ht]
  dsimp only
  rw [if_neg (by simp [hup]), shapeAt_eq_file.mp hfile]
  cases hfind : t.find (a ++ [n]) with
  | none => simp only [if_neg hmn]
  | some d =>
    cases d with
    | file c' => simp only [if_neg hmn]
    | folder es => exact absurd (shapeAt_eq_folder.mpr ⟨es, hfind⟩) hfolder

theorem moveFile_of_folder {source target : Path} {loc loc' : Location} {c : ByteArray}
    (hs : t.resolve source = .ok loc) (ht : t.resolve target = .ok loc')
    (hup : target.name ≠ Path.up) (hne : loc' ≠ []) (hfile : t.shapeAt loc = some (.file c))
    (hfolder : t.shapeAt loc' = some .folder) :
    t.moveFile source target = .error ⟨.isAFolder, source, some target⟩ := by
  obtain ⟨es, hes⟩ := shapeAt_eq_folder.mp hfolder
  unfold moveFile
  rw [hs, ht]
  dsimp only
  rw [if_neg (not_or.mpr ⟨hup, hne⟩), shapeAt_eq_file.mp hfile, hes]

theorem shapeAt_move {a : Location} {m n : String} {c : ByteArray} (ha : t.shapeAt a = some .folder)
    (hmn : a ++ [m] ≠ a ++ [n]) (hm : t.shapeAt (a ++ [m]) ≠ some .folder)
    (hn : t.shapeAt (a ++ [n]) ≠ some .folder) :
    ((t.remove (a ++ [m])).setFile (a ++ [n]) c).shapeAt =
      Function.update (Function.update t.shapeAt (a ++ [m]) none) (a ++ [n]) (some (.file c)) := by
  have hremoved := shapeAt_remove_leaf ha hm
  have ham : a ≠ a ++ [m] := by simp
  rw [shapeAt_setFile, hremoved]
  · rw [hremoved, Function.update_of_ne ham, ha]
  · rw [hremoved, Function.update_of_ne hmn.symm]
    exact hn

/-- What cannot be written cannot be removed either, and for the same reason. -/
theorem removeFile_of_writeBytes {p : Path} {content : ByteArray} {e : FileError}
    (h : t.writeBytes p content = .error e) : t.removeFile p = .error e := by
  unfold writeBytes at h
  unfold removeFile
  cases hr : t.locate p with
  | error e' => rw [hr] at h; exact h
  | ok loc =>
    rw [hr] at h
    dsimp only at h ⊢
    cases hfind : t.find loc with
    | none => rw [hfind] at h; exact absurd h (by simp)
    | some d =>
      rw [hfind] at h
      cases d with
      | file content' => exact absurd h (by simp)
      | folder es => exact h

/-- A text that could be written under a temporary name. -/
theorem begins_of_writeBytes {c : ByteArray} (hslot : HasSlot t f s)
    (h : t.writeBytes (f.temporaryPath tag) c = .ok t') :
    Begins tag t f s ∧
      t'.shapeAt = Function.update t.shapeAt (s.temporary tag) (some (.file c)) := by
  obtain ⟨loc, hloc⟩ : ∃ loc, t.resolve (f.temporaryPath tag) = .ok loc := by
    unfold writeBytes locate at h
    cases hr : t.resolve (f.temporaryPath tag) with
    | error e => rw [hr] at h; exact absurd h (by simp)
    | ok loc => exact ⟨loc, rfl⟩
  have hfits := (resolve_eq_ok.mp hloc).1
  have hshort : (temporaryName tag s.name).utf8ByteSize ≤ nameLimit := by
    rw [hslot.temporaryPath] at hloc
    obtain ⟨-, -, hshort, -⟩ := FolderAt.of_resolve_child (temporaryName_ne_up tag s.name) hloc
    exact hshort
  obtain ⟨hleaf, hshape⟩ :=
    writeBytes_ok (hslot.resolve_temporary hfits hshort) hslot.folder.shape h
  exact ⟨⟨hfits, hshort, hleaf⟩, hshape⟩

/-- In a folder that is there, only the file itself is left to be written. -/
theorem write_eq (hslot : HasSlot t f s) :
    f.write tag t =
      match f.place tag t with
      | .ok _ t₁ => .ok () t₁
      | .error e t₁ =>
        if e.isSystem then
          match Disk.removeIfThere (f.temporaryPath tag) t₁ with
          | .ok _ t₂ => .error e t₂
          | .error e' t₂ => .error e' t₂
        else .error e t₁ := by
  unfold write
  simp only [bind, EStateM.bind]
  rw [Disk.makeFolders_of_folder hslot.folder]
  simp only [catch_eq]
  cases f.place tag t with
  | ok u t₁ => rfl
  | error e t₁ =>
    dsimp only
    by_cases hsystem : e.isSystem = true
    · rw [if_pos hsystem, if_pos hsystem]
      simp only [EStateM.bind]
      cases Disk.removeIfThere (f.temporaryPath tag) t₁ <;> rfl
    · rw [if_neg hsystem, if_neg hsystem]
      rfl

theorem place_eq (tag : String) (f : ProgramFile) (t : FileTree) :
    f.place tag t =
      match t.writeBytes (f.temporaryPath tag) (bytesOf f.text) with
      | .error e => .error e t
      | .ok t₁ =>
        match f.text.halves? with
        | some halves => .error ⟨.notEncodable halves, f.temporaryPath tag, none⟩ t₁
        | none =>
          match t₁.moveFile (f.temporaryPath tag) f.path with
          | .error e => .error e t₁
          | .ok t₂ => .ok () t₂ := by
  unfold place Disk.writeText
  simp only [bind, EStateM.bind, Disk.step]
  cases t.writeBytes (f.temporaryPath tag) (bytesOf f.text) with
  | error e => rfl
  | ok t₁ =>
    dsimp only
    cases f.text.halves? with
    | some halves => rfl
    | none =>
      dsimp only [pure, EStateM.pure]
      cases t₁.moveFile (f.temporaryPath tag) f.path <;> rfl

/-! ## A file that was begun -/

section Begun

variable {t₁ : FileTree} (hslot : HasSlot t f s) (hbegins : Begins tag t f s)
  (hbegun : t.writeBytes (f.temporaryPath tag) (bytesOf f.text) = .ok t₁)
  (hshape : t₁.shapeAt =
    Function.update t.shapeAt (s.temporary tag) (some (.file (bytesOf f.text))))
include hslot hbegins hshape

/-- The file that was begun, and the place it goes to, as the file is found there. -/
theorem begun_places :
    t₁.resolve (f.temporaryPath tag) = .ok (s.temporary tag) ∧ t₁.resolve f.path = .ok s.target ∧
      t₁.shapeAt (s.temporary tag) = some (.file (bytesOf f.text)) ∧
      t₁.shapeAt s.target = t.shapeAt s.target := by
  have hslot₁ := hslot.of_kept (folders_kept_of_update hbegins.temporary hshape)
  refine ⟨hslot₁.resolve_temporary hbegins.fits hbegins.short,
    hslot₁.resolve_target hbegins.fits hbegins.short, ?_, ?_⟩
  · rw [hshape]
    exact Function.update_self _ _ _
  · rw [hshape]
    exact Function.update_of_ne (temporary_ne_target tag s).symm _ _

include hbegun

/-- What was begun goes again if a folder stands at the file's place. -/
theorem ends_of_folder (hwhole : f.text.isWhole = true)
    (hfolder : t.shapeAt s.target = some .folder) : WriteEnds tag f s t (f.write tag t) := by
  obtain ⟨hsource, htarget, hfile, hsame⟩ := begun_places hslot hbegins hshape
  have hshape₁ := (hslot.of_kept (folders_kept_of_update hbegins.temporary hshape)).folder.shape
  have hmove := moveFile_of_folder hsource htarget hslot.name_ne_up (by simp [Slot.target]) hfile
    (hsame.trans hfolder)
  have hleaf : t₁.shapeAt (s.temporary tag) ≠ some .folder := by rw [hfile]; simp
  obtain ⟨b, t₂, hremove⟩ := Disk.removeIfThere_of_ne_folder hsource hleaf
  have hremoved := (Disk.removeIfThere_ok hsource hshape₁ hremove).2
  have hsystem : (FileError.mk .isAFolder (f.temporaryPath tag) (some f.path)).isSystem = true :=
    rfl
  have hwrite : f.write tag t = .error ⟨.isAFolder, f.temporaryPath tag, some f.path⟩ t₂ := by
    rw [write_eq hslot, place_eq, hbegun]
    dsimp only
    rw [Text.halves?_eq_none.mpr hwhole]
    dsimp only
    rw [hmove]
    dsimp only
    rw [if_pos hsystem, hremove]
  rw [hwrite]
  refine .notMoved hbegins hwhole hfolder (hremoved.trans ?_)
  rw [hshape]
  exact Function.update_idem _ _ _

/-- What was begun is moved to the file's place if no folder stands there. -/
theorem ends_of_ne_folder (hwhole : f.text.isWhole = true)
    (hfolder : t.shapeAt s.target ≠ some .folder) : WriteEnds tag f s t (f.write tag t) := by
  obtain ⟨hsource, htarget, hfile, hsame⟩ := begun_places hslot hbegins hshape
  have hne := temporary_ne_target tag s
  have hshape₁ := (hslot.of_kept (folders_kept_of_update hbegins.temporary hshape)).folder.shape
  have hmove := moveFile_of_file hsource htarget hslot.name_ne_up hne hfile (hsame ▸ hfolder)
  have hleaf : t₁.shapeAt (s.temporary tag) ≠ some .folder := by rw [hfile]; simp
  have hmoved := shapeAt_move (c := bytesOf f.text) hshape₁ hne hleaf (hsame ▸ hfolder)
  have hwrite : f.write tag t =
      .ok () ((t₁.remove (s.temporary tag)).setFile s.target (bytesOf f.text)) := by
    rw [write_eq hslot, place_eq, hbegun]
    dsimp only
    rw [Text.halves?_eq_none.mpr hwhole]
    dsimp only
    rw [hmove]
    rfl
  rw [hwrite]
  refine .written ⟨hbegins, hwhole, hfolder⟩ (hmoved.trans ?_)
  rw [hshape]
  unfold put Slot.temporary Slot.target
  rw [Function.update_idem]

end Begun

/-! ## How writing ends -/

/-- The four ways in which writing a file ends whose folder is there. -/
theorem write_ends (tag : String) (hslot : HasSlot t f s) :
    WriteEnds tag f s t (f.write tag t) := by
  cases hbegun : t.writeBytes (f.temporaryPath tag) (bytesOf f.text) with
  | error e =>
    have hwrite : f.write tag t = .error e t := by
      rw [write_eq hslot, place_eq, hbegun]
      dsimp only
      by_cases hsystem : e.isSystem = true
      · rw [if_pos hsystem, Disk.removeIfThere_eq, removeFile_of_writeBytes hbegun]
        dsimp only
        by_cases hmissing : e.fault = .missing
        · rw [if_pos hmissing]
        · rw [if_neg hmissing]
      · rw [if_neg hsystem]
    rw [hwrite]
    exact .notBegun hbegun
  | ok t₁ =>
    obtain ⟨hbegins, hshape⟩ := begins_of_writeBytes hslot hbegun
    cases hhalves : f.text.halves? with
    | none =>
      have hwhole := Text.halves?_eq_none.mp hhalves
      by_cases hfolder : t.shapeAt s.target = some .folder
      · exact ends_of_folder hslot hbegins hbegun hshape hwhole hfolder
      · exact ends_of_ne_folder hslot hbegins hbegun hshape hwhole hfolder
    | some halves =>
      have hwrite : f.write tag t =
          .error ⟨.notEncodable halves, f.temporaryPath tag, none⟩ t₁ := by
        rw [write_eq hslot, place_eq, hbegun]
        dsimp only
        rw [hhalves]
        rfl
      rw [hwrite]
      exact .notEncoded hbegins hhalves hshape

/-- The folders on the way to a file cannot be made, and that is all, or they are there and the file
is written in one of the four ways. -/
theorem write_cases (tag : String) (h : Leads f s) (t : FileTree) :
    (∃ e t₁, Disk.makeFolders f.path.parent t = .error e t₁ ∧ f.write tag t = .error e t₁) ∨
      ∃ t₁, Disk.makeFolders f.path.parent t = .ok () t₁ ∧
        MadeAlong f.path.parent.segments t t₁ ∧ HasSlot t₁ f s ∧
          f.write tag t = f.write tag t₁ ∧ WriteEnds tag f s t₁ (f.write tag t₁) := by
  cases hmakes : Disk.makeFolders f.path.parent t with
  | error e t₁ =>
    refine Or.inl ⟨e, t₁, rfl, ?_⟩
    unfold write
    simp only [bind, EStateM.bind, hmakes]
  | ok u t₁ =>
    obtain ⟨hmade, loc, hloc⟩ := Disk.madeAlong_makeFolders hmakes
    have hslot := h.hasSlot hloc
    refine Or.inr ⟨t₁, rfl, hmade, hslot, ?_, write_ends tag hslot⟩
    unfold write
    simp only [bind, EStateM.bind]
    rw [hmakes, Disk.makeFolders_of_folder hloc]

theorem write_of_room (hslot : HasSlot t f s) (hroom : HasRoom tag t f s) :
    ∃ t', f.write tag t = .ok () t' ∧ t'.shapeAt = put tag s f.text t.shapeAt := by
  have hends := write_ends tag hslot
  generalize f.write tag t = r at hends
  cases hends with
  | notBegun error =>
    rw [writeBytes_of_ne_folder (hslot.resolve_temporary hroom.fits hroom.short)
      hroom.temporary] at error
    exact absurd error (by simp)
  | notEncoded _ text _ =>
    rw [Text.halves?_eq_none.mpr hroom.whole] at text
    exact absurd text (by simp)
  | notMoved _ _ target _ => exact absurd target hroom.target
  | written _ shape => exact ⟨_, rfl, shape⟩

theorem ok_of_write (hslot : HasSlot t f s) (h : f.write tag t = .ok () t') :
    HasRoom tag t f s ∧ t'.shapeAt = put tag s f.text t.shapeAt := by
  have hends := write_ends tag hslot
  rw [h] at hends
  cases hends with
  | written room shape => exact ⟨room, shape⟩

end ProgramFile

end CardLogic
