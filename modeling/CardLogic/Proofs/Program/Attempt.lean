import CardLogic.Proofs.FileTree.Way
import CardLogic.Proofs.Program.Parted

/-!
What one attempt to write a file comes to.

Whether a file is written, and if not why, is settled by the tree before: by its path, by the files
on the way to it, by its text, and by the folders at its two places (`writeFault`).  Written or not,
the missing folders on the way are made as far as they can be.  If the file is written it stands at
its place, and if its text cannot be, an empty file at its temporary one (`restsAt`); nothing else
happens if no file was left there before (`attempted_write`).
-/

namespace CardLogic

namespace FileTree

/-- Between two trees some files came to stand and some missing folders were made, and nothing else
happened. -/
structure Gained (files : Location → ByteArray → Prop) (opens : Location → Prop)
    (t t' : FileTree) : Prop where
  stands : ∀ loc content, files loc content → t'.shapeAt loc = some (.file content)
  made : ∀ loc, opens loc → t.shapeAt loc = none → t'.shapeAt loc = some .folder
  kept : ∀ loc, (∀ content, ¬ files loc content) → (t.shapeAt loc = none → ¬ opens loc) →
    t'.shapeAt loc = t.shapeAt loc

namespace Gained

variable {files files' : Location → ByteArray → Prop} {opens opens' : Location → Prop}
  {t t₁ t' t'' : FileTree}

/-- What is left is known from what stands and what was made. -/
theorem unique (h : Gained files opens t t') (h' : Gained files opens t t'') : t' = t'' := by
  refine ext_shapeAt fun loc => ?_
  by_cases hstands : ∃ content, files loc content
  · obtain ⟨content, hcontent⟩ := hstands
    rw [h.stands loc content hcontent, h'.stands loc content hcontent]
  · rw [not_exists] at hstands
    by_cases hopen : t.shapeAt loc = none ∧ opens loc
    · rw [h.made loc hopen.2 hopen.1, h'.made loc hopen.2 hopen.1]
    · have hno : t.shapeAt loc = none → ¬ opens loc := fun hnone hloc => hopen ⟨hnone, hloc⟩
      rw [h.kept loc hstands hno, h'.kept loc hstands hno]

theorem congr (h : Gained files opens t t')
    (hfiles : ∀ loc content, files' loc content ↔ files loc content)
    (hopens : ∀ loc, opens' loc ↔ opens loc) : Gained files' opens' t t' := by
  refine ⟨fun loc content hcontent => h.stands loc content ((hfiles loc content).mp hcontent),
    fun loc hloc => h.made loc ((hopens loc).mp hloc), fun loc hno hnotMade => ?_⟩
  exact h.kept loc (fun content hcontent => hno content ((hfiles loc content).mpr hcontent))
    fun hnone hloc => hnotMade hnone ((hopens loc).mpr hloc)

theorem of_opened (h : Opened opens t t') : Gained (fun _ _ => False) opens t t' :=
  ⟨fun _ _ hno => hno.elim, h.made, fun loc _ => h.kept loc⟩

/-- At most one file came to stand. -/
theorem of_place {place : Option Location} {content : ByteArray}
    (hstands : ∀ loc, place = some loc → t'.shapeAt loc = some (.file content))
    (hkept : ∀ loc, place ≠ some loc → t'.shapeAt loc = t.shapeAt loc) :
    Gained (fun loc c => place = some loc ∧ c = content) (fun _ => False) t t' :=
  ⟨fun loc _ hfile => hfile.2 ▸ hstands loc hfile.1, fun _ hno => hno.elim,
    fun loc hno _ => hkept loc fun hplace => hno content ⟨hplace, rfl⟩⟩

/-- One after the other, where none comes to the places of the other. -/
theorem trans (h : Gained files opens t t₁) (h' : Gained files' opens' t₁ t')
    (hplaces : ∀ loc content content', files loc content → ¬ files' loc content')
    (hfirst : ∀ loc content, files loc content → ¬ opens' loc)
    (hsecond : ∀ loc content, files' loc content → ¬ opens loc) :
    Gained (fun loc content => files loc content ∨ files' loc content)
      (fun loc => opens loc ∨ opens' loc) t t' := by
  refine ⟨fun loc content hcontent => ?_, fun loc hloc hnone => ?_, fun loc hno hnotMade => ?_⟩
  · rcases hcontent with hcontent | hcontent
    · have hfile := h.stands loc content hcontent
      rw [h'.kept loc (fun content' => hplaces loc content content' hcontent)
        (fun hnone => absurd (hfile.symm.trans hnone) (by simp)), hfile]
    · exact h'.stands loc content hcontent
  · by_cases hopen : opens loc
    · have hfolder := h.made loc hopen hnone
      rw [h'.kept loc (fun content hcontent => hsecond loc content hcontent hopen)
        (fun hnone' => absurd (hfolder.symm.trans hnone') (by simp)), hfolder]
    · have hopen' := hloc.resolve_left hopen
      have hsame := h.kept loc (fun content hcontent => hfirst loc content hcontent hopen')
        fun _ => hopen
      exact h'.made loc hopen' (hsame.trans hnone)
  · have hsame := h.kept loc (fun content hcontent => hno content (Or.inl hcontent))
      fun hnone hopen => hnotMade hnone (Or.inl hopen)
    rw [h'.kept loc (fun content hcontent => hno content (Or.inr hcontent))
      (fun hnone hopen => hnotMade (hsame.symm.trans hnone) (Or.inr hopen)), hsame]

end Gained

end FileTree

namespace ProgramFile

open FileTree

/-- Where a file goes: below a folder that is there, on a way that need not be. -/
structure Spot where
  base : Path
  /-- Where the folder is. -/
  here : Location
  way : List String
  name : String

def Spot.slot (s : Spot) : Slot := ⟨s.here ++ s.way, s.name⟩

/-- The spot that a file's path leads to. -/
structure HasSpot (t : FileTree) (f : ProgramFile) (s : Spot) : Prop where
  base : FolderAt t s.base s.here
  straight : Path.up ∉ s.way
  ne_up : s.name ≠ Path.up
  path : f.path = (s.base.below s.way).child s.name

/-- What keeps a file from being begun under its temporary name, if its folder is there. -/
def beginFault (tag : String) (f : ProgramFile) (s : Slot) (shapes : Location → Option Shape) :
    Option Fault :=
  (pathFault? (f.temporaryPath tag)).or <|
    if nameLimit < (temporaryName tag s.name).utf8ByteSize then some .nameTooLong
    else if shapes (s.temporary tag) = some .folder then some .isAFolder
    else none

/-- What keeps a file from its slot, if its folder is there. -/
def placeFault (tag : String) (f : ProgramFile) (s : Slot) (shapes : Location → Option Shape) :
    Option Fault :=
  (beginFault tag f s shapes).or <|
    (f.text.halves?.map Fault.notEncodable).or <|
      if shapes s.target = some .folder then some .isAFolder else none

/-- What keeps a file from being written. -/
def writeFault (tag : String) (f : ProgramFile) (s : Spot) (shapes : Location → Option Shape) :
    Option Fault :=
  (pathFault? f.path.parent).or <|
    (wayFault shapes s.here s.way).or (placeFault tag f s.slot shapes)

/-- Where folders are, or are made, for a file. -/
def WriteOpens (f : ProgramFile) (s : Spot) (shapes : Location → Option Shape) (loc : Location) :
    Prop :=
  f.path.parent.Fits ∧ Opens shapes s.here s.way loc

/-- Where a file is after an attempt, by what kept it from being written. -/
def restsAt (tag : String) (s : Slot) : Option Fault → Option Location
  | none => some s.target
  | some (.notEncodable _) => some (s.temporary tag)
  | some _ => none

/-- Between two trees a file came to rest where it does, and folders were made for it. -/
def Attempted (tag : String) (f : ProgramFile) (s : Spot) (t t' : FileTree) : Prop :=
  Gained (fun loc content => restsAt tag s.slot (writeFault tag f s t.shapeAt) = some loc ∧
    content = bytesOf f.text) (WriteOpens f s t.shapeAt) t t'

variable {tag : String} {t t₁ t' : FileTree} {f : ProgramFile} {s : Slot} {r : Spot}
  {shapes shapes' : Location → Option Shape} {loc : Location}

/-! ## In a folder that is there -/

theorem beginFault_eq_none : beginFault tag f s t.shapeAt = none ↔ Begins tag t f s := by
  unfold beginFault
  rw [Option.or_eq_none_iff, pathFault?_eq_none]
  by_cases hlong : nameLimit < (temporaryName tag s.name).utf8ByteSize
  · rw [if_pos hlong]
    exact ⟨fun h => absurd h.2 (by simp), fun h => absurd hlong (by have := h.short; omega)⟩
  · rw [if_neg hlong]
    by_cases hfolder : t.shapeAt (s.temporary tag) = some .folder
    · rw [if_pos hfolder]
      exact ⟨fun h => absurd h.2 (by simp), fun h => absurd hfolder h.temporary⟩
    · rw [if_neg hfolder]
      exact ⟨fun h => ⟨h.1, by omega, hfolder⟩, fun h => ⟨h.fits, rfl⟩⟩

/-- Why a file cannot be begun under its temporary name. -/
theorem beginFault_of_not_begun {content : ByteArray} {e : FileError} (hslot : HasSlot t f s)
    (h : t.writeBytes (f.temporaryPath tag) content = .error e) :
    beginFault tag f s t.shapeAt = some e.fault := by
  have hunresolved : ∀ fault, t.resolve (f.temporaryPath tag) = .error fault → e.fault = fault := by
    intro fault hr
    unfold writeBytes locate at h
    rw [hr] at h
    cases h
    rfl
  unfold beginFault
  cases hfault : pathFault? (f.temporaryPath tag) with
  | some fault =>
    rw [Option.some_or, hunresolved fault (resolve_of_pathFault? hfault t).1]
  | none =>
    have hfits := pathFault?_eq_none.mp hfault
    rw [Option.none_or]
    by_cases hlong : nameLimit < (temporaryName tag s.name).utf8ByteSize
    · have hresolve : t.resolve (f.temporaryPath tag) = .error .nameTooLong := by
        rw [hslot.temporaryPath, ← Path.below_singleton] at hfits ⊢
        rw [resolve_below hslot.folder hfits, walk_cons_of_folder hslot.folder.shape,
          if_neg (temporaryName_ne_up tag s.name), if_pos hlong]
      rw [if_pos hlong, hunresolved _ hresolve]
    · have hresolve := hslot.resolve_temporary hfits (by omega)
      rw [if_neg hlong]
      by_cases hfolder : t.shapeAt (s.temporary tag) = some .folder
      · obtain ⟨es, hes⟩ := shapeAt_eq_folder.mp hfolder
        unfold writeBytes locate at h
        rw [hresolve] at h
        dsimp only at h
        rw [hes] at h
        cases h
        rw [if_pos hfolder]
      · rw [writeBytes_of_ne_folder hresolve hfolder] at h
        exact absurd h (by simp)

theorem placeFault_of_begins (h : Begins tag t f s) : placeFault tag f s t.shapeAt =
    (f.text.halves?.map Fault.notEncodable).or
      (if t.shapeAt s.target = some .folder then some .isAFolder else none) := by
  rw [placeFault, beginFault_eq_none.mpr h, Option.none_or]

/-- A step at a path does not fail for the text. -/
theorem restsAt_of_byPath (tag : String) (s : Slot) {p : Path} {e : FileError} (h : e.ByPath p) :
    restsAt tag s (some e.fault) = none := by
  obtain ⟨fault, p, target⟩ := e
  cases fault with
  | notEncodable halves =>
    rcases h with hsystem | ⟨hnull, -⟩
    · exact absurd hsystem (by simp [FileError.isSystem, Fault.isSystem, Fault.number?])
    · exact absurd hnull (by simp)
  | _ => rfl

theorem WriteEnds.fault {r : EStateM.Result FileError FileTree Unit} (h : WriteEnds tag f s t r)
    (hslot : HasSlot t f s) : faultOf r = placeFault tag f s t.shapeAt := by
  cases h with
  | notBegun error =>
    rw [placeFault, beginFault_of_not_begun hslot error]
    rfl
  | notEncoded begins text =>
    rw [placeFault_of_begins begins, text]
    rfl
  | notMoved begins whole target =>
    rw [placeFault_of_begins begins, Text.halves?_eq_none.mpr whole, if_pos target]
    rfl
  | written room =>
    rw [placeFault_of_begins room.toBegins, Text.halves?_eq_none.mpr room.whole,
      if_neg room.target]
    rfl

/-- What writing a file does in a folder that is there, if no file was left at the temporary
place. -/
theorem gained_write (hslot : HasSlot t f s)
    (hfree : ∀ content, t.shapeAt (s.temporary tag) ≠ some (.file content)) :
    Gained (fun loc content =>
        restsAt tag s (placeFault tag f s t.shapeAt) = some loc ∧ content = bytesOf f.text)
      (fun _ => False) t (after (f.write tag) t) := by
  have hnone : t.shapeAt (s.temporary tag) ≠ some .folder → t.shapeAt (s.temporary tag) = none := by
    intro hfolder
    cases hthere : t.shapeAt (s.temporary tag) with
    | none => rfl
    | some sh =>
      cases sh with
      | file content => exact absurd hthere (hfree content)
      | folder => exact absurd hthere hfolder
  have hends := write_ends tag hslot
  rw [← hends.fault hslot]
  unfold after
  generalize f.write tag t = r at hends
  cases hends with
  | notBegun error =>
    have hrests := restsAt_of_byPath tag s (byPath_of_writeBytes error)
    exact .of_place (fun loc hplace => absurd (hrests.symm.trans hplace) (by simp)) fun _ _ => rfl
  | notEncoded begins text shape =>
    refine .of_place (fun loc hplace => ?_) fun loc hplace => ?_
    · rw [← Option.some.inj hplace, shape]
      exact Function.update_self _ _ _
    · rw [shape]
      exact Function.update_of_ne (fun heq => hplace (congrArg some heq.symm)) _ _
  | notMoved begins whole target shape =>
    refine .of_place (fun loc hplace => absurd hplace (by simp [faultOf, restsAt])) fun loc _ => ?_
    rw [shape, ← hnone begins.temporary, Function.update_eq_self]
  | written room shape =>
    refine .of_place (fun loc hplace => ?_) fun loc hplace => ?_
    · rw [← Option.some.inj hplace, shape]
      exact put_target _ _ _ _
    · rw [shape, put, Function.update_of_ne fun heq => hplace (congrArg some heq.symm),
        ← hnone room.temporary, Function.update_eq_self]

/-! ## One attempt -/

namespace HasSpot

theorem parent (h : HasSpot t f r) : f.path.parent = r.base.below r.way := by
  rw [h.path, Path.parent_child]

theorem location (h : HasSpot t f r) : f.path.parent.location = r.slot.folder := by
  rw [h.parent]
  unfold Path.location Path.below
  rw [landing_append, landing_of_not_mem _ h.straight]
  exact congrArg (· ++ r.way) h.base.location_eq

theorem leads (h : HasSpot t f r) : Leads f r.slot :=
  ⟨h.ne_up, by rw [h.parent]; exact h.path, h.location⟩

theorem of_kept (hkept : ∀ loc, t.shapeAt loc = some .folder → t'.shapeAt loc = some .folder)
    (h : HasSpot t f r) : HasSpot t' f r :=
  ⟨h.base.of_kept hkept, h.straight, h.ne_up, h.path⟩

end HasSpot

/-- A way ends above the places at its end. -/
theorem prefix_target_of_opens (h : WriteOpens f r shapes loc) (name : String) :
    loc <+: r.slot.folder ++ [name] :=
  (prefix_of_opens h.2).trans (List.prefix_append _ _)

theorem ne_of_opens (h : WriteOpens f r shapes loc) (name : String) :
    loc ≠ r.slot.folder ++ [name] := by
  rintro rfl
  have hlength : (r.slot.folder ++ [name]).length ≤ r.slot.folder.length :=
    (prefix_of_opens h.2).length_le
  rw [List.length_append, List.length_singleton] at hlength
  omega

/-- The places of a file are not on the way to it. -/
theorem placeFault_of_opened
    (h : Opened (WriteOpens f r t.shapeAt) t t₁) :
    placeFault tag f r.slot t₁.shapeAt = placeFault tag f r.slot t.shapeAt := by
  have hsame : ∀ name, t₁.shapeAt (r.slot.folder ++ [name]) = t.shapeAt (r.slot.folder ++ [name]) :=
    fun name => h.kept _ fun _ hopen => ne_of_opens hopen name rfl
  unfold placeFault beginFault Slot.temporary Slot.target
  rw [hsame, hsame]

theorem restsAt_cases {s : Slot} {fault : Option Fault} (h : restsAt tag s fault = some loc) :
    loc = s.target ∨ loc = s.temporary tag := by
  unfold restsAt at h
  split at h
  · exact Or.inl (Option.some.inj h).symm
  · exact Or.inr (Option.some.inj h).symm
  · exact absurd h (by simp)

/-- Where a file rests is not on the way to it. -/
theorem not_opens_of_rests {fault : Option Fault} (h : restsAt tag r.slot fault = some loc) :
    ¬ WriteOpens f r shapes loc := by
  rcases restsAt_cases h with rfl | rfl
  · exact fun hopen => ne_of_opens hopen r.slot.name rfl
  · exact fun hopen => ne_of_opens hopen (temporaryName tag r.slot.name) rfl

/-- Where the path of the folder is not one, nothing is done. -/
theorem attempted_of_unfit (h : HasSpot t f r) {fault : Fault}
    (hparent : pathFault? f.path.parent = some fault) :
    faultOf (f.write tag t) = writeFault tag f r t.shapeAt ∧
      Attempted tag f r t (after (f.write tag) t) := by
  obtain ⟨hresolve, hmissing⟩ := resolve_of_pathFault? hparent t
  have hmakes := Disk.makeFolders_of_error hresolve hmissing
  have hunfit : ¬ f.path.parent.Fits := fun hfits => by
    rw [pathFault?_eq_none.mpr hfits] at hparent
    exact absurd hparent (by simp)
  have hwrite : f.write tag t = .error ⟨fault, f.path.parent, none⟩ t := by
    rcases write_cases tag h.leads t with ⟨e, t₁, heq, hwrite⟩ | ⟨t₁, heq, -⟩
    · cases hmakes.symm.trans heq
      exact hwrite
    · exact absurd (hmakes.symm.trans heq) (by simp)
  have hrests := restsAt_of_byPath tag r.slot (Disk.byPath_of_makeFolders hmakes)
  unfold Attempted after writeFault
  rw [hwrite, hparent]
  refine ⟨rfl, fun loc content hplace => ?_, fun loc hno => absurd hno.1 hunfit,
    fun loc _ _ => rfl⟩
  exact absurd (hrests.symm.trans hplace.1) (by simp)

/-- Once the folders on the way are made, what is left is to write the file where they are. -/
theorem gained_of_opened (hopened : Opened (WriteOpens f r t.shapeAt) t t₁)
    (hslot : HasSlot t₁ f r.slot) (hsame : f.write tag t = f.write tag t₁)
    (hfree : ∀ content, t.shapeAt (r.slot.temporary tag) ≠ some (.file content)) :
    faultOf (f.write tag t) = placeFault tag f r.slot t.shapeAt ∧
      Gained (fun loc content => restsAt tag r.slot (placeFault tag f r.slot t.shapeAt) = some loc ∧
        content = bytesOf f.text) (WriteOpens f r t.shapeAt) t (after (f.write tag) t) := by
  have hplace : placeFault tag f r.slot t₁.shapeAt = placeFault tag f r.slot t.shapeAt :=
    placeFault_of_opened hopened
  have hfree₁ : ∀ content, t₁.shapeAt (r.slot.temporary tag) ≠ some (.file content) := by
    intro content hfile
    have hkept := hopened.kept (r.slot.temporary tag)
      fun _ hopen => ne_of_opens hopen (temporaryName tag r.slot.name) rfl
    exact hfree content (hkept.symm.trans hfile)
  have hafter : after (f.write tag) t = after (f.write tag) t₁ := by
    unfold after
    rw [hsame]
  have hlast := gained_write hslot hfree₁
  rw [hplace] at hlast
  rw [hafter, hsame]
  refine ⟨((write_ends tag hslot).fault hslot).trans hplace, ?_⟩
  refine ((Gained.of_opened hopened).trans hlast (fun _ _ _ hno => hno.elim)
    (fun _ _ hno => hno.elim) fun loc content hcontent hopen => ?_).congr ?_ ?_
  · exact not_opens_of_rests hcontent.1 hopen
  · exact fun loc content => (iff_of_eq (false_or _)).symm
  · exact fun loc => (iff_of_eq (or_false _)).symm

/-- What one attempt comes to, if no file was left at the temporary place. -/
theorem attempted_write (h : HasSpot t f r)
    (hfree : ∀ content, t.shapeAt (r.slot.temporary tag) ≠ some (.file content)) :
    faultOf (f.write tag t) = writeFault tag f r t.shapeAt ∧
      Attempted tag f r t (after (f.write tag) t) := by
  cases hparent : pathFault? f.path.parent with
  | some fault => exact attempted_of_unfit h hparent
  | none =>
    have hfits := pathFault?_eq_none.mp hparent
    obtain ⟨hway, hopened⟩ := Disk.makeFolders_below h.base h.straight (h.parent ▸ hfits)
    rw [← h.parent] at hway hopened
    have hopened : Opened (WriteOpens f r t.shapeAt) t (after (Disk.makeFolders f.path.parent) t) :=
      hopened.congr fun loc => ⟨And.right, fun hopen => ⟨hfits, hopen⟩⟩
    unfold Attempted writeFault
    rw [hparent, Option.none_or]
    unfold after at hopened
    rcases write_cases tag h.leads t with
      ⟨e, t₁, hmakes, hwrite⟩ | ⟨t₁, hmakes, -, hslot, hsame, -⟩
    · have hrests := restsAt_of_byPath tag r.slot (Disk.byPath_of_makeFolders hmakes)
      rw [hmakes] at hway hopened
      rw [← hway]
      unfold after
      rw [hwrite]
      refine ⟨rfl, (Gained.of_opened hopened).congr (fun loc content => ?_) fun _ => Iff.rfl⟩
      exact iff_of_false (fun hplace => absurd (hrests.symm.trans hplace.1) (by simp)) id
    · rw [hmakes] at hway hopened
      rw [← hway]
      exact gained_of_opened hopened hslot hsame hfree

end ProgramFile

end CardLogic
