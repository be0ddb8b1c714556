import CardLogic.Proofs.Program.Attempt
import Mathlib.Data.List.Basic

/-!
A batch in any order.

What becomes of a file is settled by the tree before the batch if no other file of the batch goes
to a place at or above its own, or has its temporary place there (`Aside`): then no attempt to write
another file, done or failed, changes anything that the attempt to write this one depends on
(`writeFault_of_aside`).  Folders that several files need are made by whichever comes first, and
they are the same folders.  So the files that fail, the faults they fail with and the tree in the
end can be said without the order (`writeEach_spread`), and any two orders agree
(`any_order_of_spread`).
-/

namespace CardLogic.ProgramFile

open FileTree

/-- Neither place of a slot is at or above the place of another slot's file. -/
structure Aside (tag : String) (s s' : Slot) : Prop where
  target : ¬ s.target <+: s'.target
  temporary : ¬ s.temporary tag <+: s'.target

/-- A batch whose files have spots aside of each other, and no file at their temporary places. -/
structure Spread (tag : String) (spot : ProgramFile → Spot) (files : List ProgramFile)
    (t : FileTree) : Prop where
  spots : ∀ f ∈ files, HasSpot t f (spot f)
  free : ∀ f ∈ files, ∀ content, t.shapeAt ((spot f).slot.temporary tag) ≠ some (.file content)
  aside : files.Pairwise fun f g =>
    Aside tag (spot f).slot (spot g).slot ∧ Aside tag (spot g).slot (spot f).slot

/-- Where the files of a batch come to rest. -/
def BatchRests (tag : String) (spot : ProgramFile → Spot) (files : List ProgramFile)
    (shapes : Location → Option Shape) (loc : Location) (content : ByteArray) : Prop :=
  ∃ f ∈ files, restsAt tag (spot f).slot (writeFault tag f (spot f) shapes) = some loc ∧
    content = bytesOf f.text

/-- Where folders are, or are made, for a batch. -/
def BatchOpens (spot : ProgramFile → Spot) (files : List ProgramFile)
    (shapes : Location → Option Shape) (loc : Location) : Prop :=
  ∃ f ∈ files, WriteOpens f (spot f) shapes loc

/-- The files that were not written, each with its fault. -/
def faults (failed : List (ProgramFile × FileError)) : List (ProgramFile × Fault) :=
  failed.map fun x => (x.1, x.2.fault)

/-- A batch comes to the same in another order: to the same tree, and to the same faults of the same
files. -/
structure SameOutcome (tag : String) (files order : List ProgramFile) (t : FileTree) : Prop where
  tree : (writeEach tag order t).2 = (writeEach tag files t).2
  failed : (faults (writeEach tag order t).1).Perm (faults (writeEach tag files t).1)

/-- No path of a batch goes on from another one, or from the temporary place of any. -/
structure Untangled (tag : String) (files : List ProgramFile) : Prop where
  apart : files.Pairwise Beside
  plain : ∀ f ∈ files, ∀ g ∈ files, ¬ (f.temporaryPath tag).segments <+: g.path.segments

/-- The spot that a file's path leads to below a folder. -/
def spotBelow (base : Path) (here : Location) (f : ProgramFile) : Spot :=
  ⟨base, here, f.path.parent.segments.drop base.segments.length, f.path.name⟩

variable {tag : String} {t t₁ t' : FileTree} {f g : ProgramFile} {s s' : Slot} {r r' : Spot}
  {spot : ProgramFile → Spot} {files order : List ProgramFile} {loc : Location}

/-! ## One attempt beside another -/

namespace Aside

theorem target_ne (h : Aside tag s s') : s.target ≠ s'.target :=
  fun heq => h.target (heq ▸ List.prefix_rfl)

theorem temporary_ne (h : Aside tag s s') : s.temporary tag ≠ s'.temporary tag := by
  intro heq
  obtain ⟨hfolder, hname⟩ := List.append_inj' heq rfl
  have hslot : s.folder ++ [s.name] = s'.folder ++ [s'.name] := by
    rw [hfolder, temporaryName_inj (List.cons.inj hname).1]
  exact h.target_ne hslot

theorem temporary_ne_target (h : Aside tag s s') : s.temporary tag ≠ s'.target :=
  fun heq => h.temporary (heq ▸ List.prefix_rfl)

/-- A place of a slot is not at or above the place of another slot's file. -/
theorem not_above {fault : Option Fault} (h : Aside tag s s')
    (hrests : restsAt tag s fault = some loc) : ¬ loc <+: s'.target := by
  rcases restsAt_cases hrests with rfl | rfl
  · exact h.target
  · exact h.temporary

end Aside

section Beside

variable (h : Attempted tag f r t t₁)
include h

theorem shapeAt_of_not_above (hloc : ¬ loc <+: r.slot.target) (hne : loc ≠ r.slot.temporary tag) :
    t₁.shapeAt loc = t.shapeAt loc := by
  refine h.kept loc (fun content hcontent => ?_)
    fun _ hopen => hloc (prefix_target_of_opens hopen r.slot.name)
  rcases restsAt_cases hcontent.1 with heq | heq
  · exact hloc (heq ▸ List.prefix_rfl)
  · exact hne heq

variable (hfirst : Aside tag r.slot r'.slot) (hsecond : Aside tag r'.slot r.slot)

include hfirst in
/-- On the way to a slot aside the same files are met. -/
theorem sameFiles_of_aside :
    SameFiles (fun loc => loc <+: r'.here ++ r'.way) t.shapeAt t₁.shapeAt := by
  intro loc hloc
  by_cases hopen : t.shapeAt loc = none ∧ WriteOpens f r t.shapeAt loc
  · rw [h.made loc hopen.2 hopen.1, hopen.1]
    simp
  · rw [h.kept loc (fun content hcontent => hfirst.not_above hcontent.1
      (hloc.trans (List.prefix_append _ _))) fun hnone hloc' => hopen ⟨hnone, hloc'⟩]

include hfirst hsecond in
theorem placeFault_of_aside :
    placeFault tag g r'.slot t₁.shapeAt = placeFault tag g r'.slot t.shapeAt := by
  unfold placeFault beginFault
  rw [shapeAt_of_not_above h hsecond.temporary hfirst.temporary_ne.symm,
    shapeAt_of_not_above h hsecond.target hfirst.temporary_ne_target.symm]

include hfirst hsecond in
/-- What keeps a file from being written does not depend on attempts aside. -/
theorem writeFault_of_aside :
    writeFault tag g r' t₁.shapeAt = writeFault tag g r' t.shapeAt := by
  unfold writeFault
  rw [wayFault_congr (sameFiles_of_aside h hfirst), placeFault_of_aside h hfirst hsecond]

include hfirst in
theorem writeOpens_of_aside :
    WriteOpens g r' t₁.shapeAt loc ↔ WriteOpens g r' t.shapeAt loc := by
  unfold WriteOpens
  rw [opens_congr (sameFiles_of_aside h hfirst)]

end Beside

/-- Another writing keeps the folder that a spot lies below. -/
theorem HasSpot.of_write (h : HasSpot t f r) (hg : HasSpot t g r') (tag : String) :
    HasSpot (after (f.write tag) t) g r' := by
  have hfilled : OnlyFilled tag f.path.parent.segments [(f, r.slot)] t (after (f.write tag) t) :=
    onlyFilled_write h.leads List.prefix_rfl t
  exact hg.of_kept fun _ => hfilled.kept

/-! ## A batch -/

theorem Spread.perm (h : Spread tag spot files t) (hperm : order.Perm files) :
    Spread tag spot order t :=
  ⟨fun f hf => h.spots f (hperm.mem_iff.mp hf), fun f hf => h.free f (hperm.mem_iff.mp hf),
    (hperm.pairwise_iff fun hboth => hboth.symm).mpr h.aside⟩

/-- After one file was tried, the others are spread as before, and the same keeps them from being
written and opens for them. -/
theorem Spread.tail (h : Spread tag spot (f :: files) t)
    (hfirst : Attempted tag f (spot f) t (after (f.write tag) t)) :
    Spread tag spot files (after (f.write tag) t) ∧ ∀ g ∈ files,
      writeFault tag g (spot g) (after (f.write tag) t).shapeAt =
          writeFault tag g (spot g) t.shapeAt ∧
        ∀ loc, WriteOpens g (spot g) (after (f.write tag) t).shapeAt loc ↔
          WriteOpens g (spot g) t.shapeAt loc := by
  obtain ⟨haside, hrest⟩ := List.pairwise_cons.mp h.aside
  refine ⟨⟨fun g hg => ?_, fun g hg content => ?_, hrest⟩, fun g hg => ⟨?_, fun loc => ?_⟩⟩
  · exact (h.spots f List.mem_cons_self).of_write (h.spots g (List.mem_cons_of_mem _ hg)) tag
  · rw [shapeAt_of_not_above hfirst (haside g hg).2.temporary (haside g hg).1.temporary_ne.symm]
    exact h.free g (List.mem_cons_of_mem _ hg) content
  · exact writeFault_of_aside hfirst (haside g hg).1 (haside g hg).2
  · exact writeOpens_of_aside hfirst (haside g hg).1

theorem faults_cons (tag : String) (f : ProgramFile) (files : List ProgramFile) (t : FileTree) :
    faults (writeEach tag (f :: files) t).1 =
      ((faultOf (f.write tag t)).map (f, ·)).toList ++
        faults (writeEach tag files (after (f.write tag) t)).1 := by
  rw [writeEach]
  unfold after
  cases f.write tag t <;> rfl

/-- What a batch comes to, said without its order. -/
theorem writeEach_spread (h : Spread tag spot files t) :
    faults (writeEach tag files t).1 =
        files.filterMap (fun f => (writeFault tag f (spot f) t.shapeAt).map (f, ·)) ∧
      Gained (BatchRests tag spot files t.shapeAt) (BatchOpens spot files t.shapeAt) t
        (writeEach tag files t).2 := by
  induction files generalizing t with
  | nil =>
    refine ⟨rfl, fun loc content hno => ?_, fun loc hno => ?_, fun loc _ _ => rfl⟩
    · obtain ⟨f, hf, -⟩ := hno
      exact absurd hf (by simp)
    · obtain ⟨f, hf, -⟩ := hno
      exact absurd hf (by simp)
  | cons f files ih =>
    obtain ⟨hfault, hfirst⟩ :=
      attempted_write (h.spots f List.mem_cons_self) (h.free f List.mem_cons_self)
    obtain ⟨hready, hsame⟩ := h.tail hfirst
    obtain ⟨hfaults, hgained⟩ := ih hready
    obtain ⟨haside, -⟩ := List.pairwise_cons.mp h.aside
    refine ⟨?_, ?_⟩
    · have hrest : files.filterMap (fun g =>
            (writeFault tag g (spot g) (after (f.write tag) t).shapeAt).map (g, ·)) =
          files.filterMap fun g => (writeFault tag g (spot g) t.shapeAt).map (g, ·) :=
        List.filterMap_congr fun g hg => by rw [(hsame g hg).1]
      rw [faults_cons, hfault, hfaults, hrest, List.filterMap_cons]
      cases writeFault tag f (spot f) t.shapeAt <;> rfl
    · rw [writeEach_cons]
      refine (hfirst.trans hgained ?_ ?_ ?_).congr (fun loc content => ?_) fun loc => ?_
      · intro loc content content' hfile hother
        obtain ⟨g, hg, hrests, -⟩ := hother
        rcases restsAt_cases hrests with rfl | rfl
        · exact (haside g hg).1.not_above hfile.1 List.prefix_rfl
        · rcases restsAt_cases hfile.1 with heq | heq
          · exact (haside g hg).2.temporary_ne_target heq
          · exact (haside g hg).2.temporary_ne heq
      · intro loc content hfile hother
        obtain ⟨g, hg, hopen⟩ := hother
        exact (haside g hg).1.not_above hfile.1 (prefix_target_of_opens hopen (spot g).name)
      · intro loc content hother hopen
        obtain ⟨g, hg, hrests, -⟩ := hother
        exact (haside g hg).2.not_above hrests (prefix_target_of_opens hopen (spot f).name)
      · rw [BatchRests, List.exists_mem_cons_iff]
        refine or_congr_right (exists_congr fun g => and_congr_right fun hg => ?_)
        rw [(hsame g hg).1]
      · rw [BatchOpens, List.exists_mem_cons_iff]
        refine or_congr_right (exists_congr fun g => and_congr_right fun hg => ?_)
        exact ((hsame g hg).2 loc).symm

/-- Two orders of a batch come to the same. -/
theorem any_order_of_spread (h : Spread tag spot files t) (hperm : order.Perm files) :
    SameOutcome tag files order t := by
  obtain ⟨hfaults, hgained⟩ := writeEach_spread h
  obtain ⟨hfaults', hgained'⟩ := writeEach_spread (h.perm hperm)
  refine ⟨(hgained'.congr (fun loc content => ?_) fun loc => ?_).unique hgained, ?_⟩
  · simp only [BatchRests, hperm.mem_iff]
  · simp only [BatchOpens, hperm.mem_iff]
  · rw [hfaults, hfaults']
    exact hperm.filterMap _

/-! ## Paths -/

section Segments

variable {base : Path} {way : List String} {name : String}
  (h : f.path = (base.below way).child name)
include h

theorem segments_below : f.path.segments = base.segments ++ (way ++ [name]) := by
  rw [h]
  exact List.append_assoc _ _ _

theorem temporary_segments_below (tag : String) : (f.temporaryPath tag).segments =
    base.segments ++ (way ++ [temporaryName tag name]) := by
  have hname : f.path.name = name := by rw [h, Path.name_child]
  have hparent : f.path.parent = base.below way := by rw [h, Path.parent_child]
  have hsegments : (f.temporaryPath tag).segments =
      f.path.parent.segments ++ [temporaryName tag f.path.name] := rfl
  rw [hsegments, hname, hparent]
  exact List.append_assoc _ _ _

end Segments

/-- A file below a folder has its spot there. -/
theorem hasSpot_below {base : Path} {here : Location} {way : List String} {name : String}
    (hbase : FolderAt t base here) (hpath : f.path = (base.below way).child name)
    (hup : Path.up ∉ way) (hname : name ≠ Path.up) : HasSpot t f (spotBelow base here f) := by
  have hway : f.path.parent.segments.drop base.segments.length = way := by
    rw [hpath, Path.parent_child]
    exact List.drop_left
  have hlast : f.path.name = name := by rw [hpath, Path.name_child]
  unfold spotBelow
  rw [hway, hlast]
  exact ⟨hbase, hup, hname, hpath⟩

/-- Below one folder, places are aside of each other if the paths are. -/
theorem aside_of_paths (h : HasSpot t f r) (h' : HasSpot t g r') (hhere : r.here = r'.here)
    (hbase : r.base.segments = r'.base.segments) (hapart : ¬ f.path.segments <+: g.path.segments)
    (hplain : ¬ (f.temporaryPath tag).segments <+: g.path.segments) :
    Aside tag r.slot r'.slot := by
  have hslot : ∀ (r : Spot) (n : String), r.slot.folder ++ [n] = r.here ++ (r.way ++ [n]) :=
    fun r n => List.append_assoc _ _ _
  refine ⟨fun hpre => hapart ?_, fun hpre => hplain ?_⟩
  · rw [segments_below h.path, segments_below h'.path, hbase, List.prefix_append_right_inj]
    rw [Slot.target, Slot.target, hslot, hslot, hhere, List.prefix_append_right_inj] at hpre
    exact hpre
  · rw [temporary_segments_below h.path, segments_below h'.path, hbase,
      List.prefix_append_right_inj]
    rw [Slot.temporary, Slot.target, hslot, hslot, hhere, List.prefix_append_right_inj] at hpre
    exact hpre

/-- A batch below one folder is spread if its paths do not go on from each other. -/
theorem spread_of_untangled {here : Location} {top : List String}
    (hspots : ∀ f ∈ files, HasSpot t f (spot f) ∧ (spot f).here = here ∧
      (spot f).base.segments = top)
    (hpaths : Untangled tag files) (hfree : NoTemporary tag t) : Spread tag spot files t := by
  refine ⟨fun f hf => (hspots f hf).1, fun f hf content hfile => ?_, ?_⟩
  · exact hfree _ _ content (shapeAt_eq_file.mp hfile)
  · refine hpaths.apart.imp_of_mem fun {f g} hf hg hbeside => ?_
    obtain ⟨hspot, hhere, htop⟩ := hspots f hf
    obtain ⟨hspot', hhere', htop'⟩ := hspots g hg
    exact ⟨aside_of_paths hspot hspot' (hhere.trans hhere'.symm) (htop.trans htop'.symm)
        hbeside.1 (hpaths.plain f hf g hg),
      aside_of_paths hspot' hspot (hhere'.trans hhere.symm) (htop'.trans htop.symm)
        hbeside.2 (hpaths.plain g hg f hf)⟩

/-- Files with paths that lie beside each other are named, or there is but one. -/
theorem named_or_single (h : files.Pairwise Beside) :
    (∀ f ∈ files, f.path.segments ≠ []) ∨ ∃ f, files = [f] := by
  by_cases hnamed : ∀ f ∈ files, f.path.segments ≠ []
  · exact Or.inl hnamed
  · right
    simp only [not_forall, not_not] at hnamed
    obtain ⟨f, hf, hnil⟩ := hnamed
    obtain ⟨before, behind, rfl⟩ := List.append_of_mem hf
    obtain ⟨-, hrest, hbefore⟩ := List.pairwise_append.mp h
    have hno : before = [] := List.eq_nil_iff_forall_not_mem.mpr fun g hg =>
      (hbefore g hg f List.mem_cons_self).2 (hnil ▸ List.nil_prefix)
    have hno' : behind = [] := List.eq_nil_iff_forall_not_mem.mpr fun g hg =>
      ((List.pairwise_cons.mp hrest).1 g hg).1 (hnil ▸ List.nil_prefix)
    exact ⟨f, by rw [hno, hno']; rfl⟩

/-- The top of a tree is a folder, whichever way it is written. -/
theorem folderAt_top (anchor : Anchor) (t : FileTree) : FolderAt t ⟨anchor, []⟩ [] := by
  have hfits : (⟨anchor, []⟩ : Path).Fits := ⟨rfl, by cases anchor <;> decide⟩
  exact ⟨resolve_eq_ok.mpr ⟨hfits, rfl⟩, t.shapeAt_nil⟩

/-- Files whose paths do not go up and do not go on from each other are written with the same
outcome in any order. -/
theorem any_order_of_straight (hup : ∀ f ∈ files, Path.up ∉ f.path.segments)
    (hpaths : Untangled tag files) (hfree : NoTemporary tag t) (hperm : order.Perm files) :
    SameOutcome tag files order t := by
  rcases named_or_single hpaths.apart with hnamed | ⟨f, rfl⟩
  · have hspots : ∀ f ∈ files, HasSpot t f (spotBelow ⟨f.path.anchor, []⟩ [] f) := by
      intro f hf
      have hsplit := segments_eq (hnamed f hf)
      have hpath : f.path = (Path.below ⟨f.path.anchor, []⟩ f.path.parent.segments).child
          f.path.name := by
        unfold Path.child Path.below
        rw [List.nil_append, hsplit]
      refine hasSpot_below (folderAt_top _ t) hpath
        (fun hmem => hup f hf (List.dropLast_subset _ hmem)) fun heq => hup f hf ?_
      rw [← hsplit, heq]
      simp
    exact any_order_of_spread
      (spread_of_untangled (fun f hf => ⟨hspots f hf, rfl, rfl⟩) hpaths hfree) hperm
  · rw [List.perm_singleton.mp hperm]
    exact ⟨rfl, .refl _⟩

/-! ## Two orders -/

/-- A file, and one in a folder that has the temporary name of the first. -/
def tangledFiles : List ProgramFile :=
  [⟨.card, Path.ofString "/a/x", "x.\n"⟩, ⟨.main, Path.ofString "/a/.x.tmp-7-7/y", "y.\n"⟩]

/-- It is not enough that the files lie beside each other and have no temporary names themselves:
where the folder is made first, the file is not written. -/
theorem tangledFiles_orders :
    tangledFiles.Pairwise Beside ∧ (∀ f ∈ tangledFiles, Path.up ∉ f.path.segments) ∧
      (∀ f ∈ tangledFiles, ∀ n, f.path.name ≠ temporaryName "7-7" n) ∧
      (writeEach "7-7" tangledFiles .empty).1 = [] ∧
      ((writeEach "7-7" tangledFiles.reverse .empty).1.map fun x => (x.1.kind, x.2.fault)) =
        [(.card, .isAFolder)] := by
  have hnames : ∀ f ∈ tangledFiles, f.path.name.toList.head? ≠ some '.' := by decide +kernel
  exact ⟨by decide +kernel, by decide +kernel, fun f hf n => ne_temporaryName (hnames f hf) n,
    by decide +kernel, by decide +kernel⟩

end CardLogic.ProgramFile
