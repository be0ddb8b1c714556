import CardLogic.Proofs.Program.Failing

/-!
What becomes of each file of a batch.

A file that is not written leaves nothing behind but folders on the way to it and, if its text
cannot be written, an empty file under its temporary name (`changed_of_error`).  So if the files of
a batch have places of their own, none of them above another, every file stands in the end or its
place is as it was, whatever became of the others (`parted_writeEach`); and what failed is told
together, in the order of the batch (`writeAll_parted`).  Only what the operating system is not
asked for is told alone: a null character in a path, or a half in a text.
-/

namespace CardLogic.ProgramFile

open FileTree

/-- There is no file whose name is a temporary one. -/
def NoTemporary (tag : String) (t : FileTree) : Prop :=
  ∀ loc n content, t.find (loc ++ [temporaryName tag n]) ≠ some (.file content)

/-- Neither file lies at or below the place of the other. -/
def Beside (f g : ProgramFile) : Prop :=
  ¬ f.path.segments <+: g.path.segments ∧ ¬ g.path.segments <+: f.path.segments

/-- The files have names of their own that are no temporary ones, their paths do not go up, and none
of them lies at or below the place of another. -/
structure Separate (tag : String) (files : List ProgramFile) : Prop where
  named : ∀ f ∈ files, f.path.segments ≠ []
  straight : ∀ f ∈ files, Path.up ∉ f.path.segments
  plain : ∀ f ∈ files, ∀ n, f.path.name ≠ temporaryName tag n
  apart : files.Pairwise Beside

/-- An empty file under the temporary name of a file whose text cannot be written. -/
def LeftBy (tag : String) (f : ProgramFile) (t : FileTree) (loc : Location) : Prop :=
  f.text.isWhole = false ∧ loc = (f.temporaryPath tag).segments ∧
    t.shapeAt loc = some (.file ByteArray.empty)

/-- Between two trees the files of a batch that did not fail came to their places, those that failed
left theirs as they were, and folders came on the way to them, where nothing was, and empty files
of those whose text cannot be written. -/
structure Parted (tag : String) (files failed : List ProgramFile) (t t' : FileTree) : Prop where
  order : failed.Sublist files
  stands : ∀ f ∈ files, f ∉ failed →
    f.text.isWhole = true ∧ t'.find f.path.segments = some (.file (bytesOf f.text))
  untouched : ∀ f ∈ failed, t'.find f.path.segments = t.find f.path.segments
  elsewhere : ∀ loc, t'.shapeAt loc ≠ t.shapeAt loc →
    (∃ f ∈ files, f ∉ failed ∧ loc = f.path.segments) ∨ (∃ f ∈ failed, LeftBy tag f t' loc) ∨
      (t.shapeAt loc = none ∧ t'.shapeAt loc = some .folder ∧
        ∃ f ∈ files, loc <+: f.path.parent.segments)

/-- The only files with temporary names are empty ones of files whose text cannot be written. -/
def OnlyLeft (tag : String) (failed : List ProgramFile) (t : FileTree) : Prop :=
  ∀ loc n content, t.find (loc ++ [temporaryName tag n]) = some (.file content) →
    ∃ f ∈ failed, LeftBy tag f t (loc ++ [temporaryName tag n])

variable {tag : String} {t t₁ t' : FileTree} {f : ProgramFile} {s : Slot}
  {files failed : List ProgramFile} {w : Workspace}

/-! ## One file -/

/-- A file that is not written leaves folders on the way to it and at most an empty file, unless
there was a file of its temporary name. -/
theorem changed_of_error {e : FileError} (h : Leads f s)
    (hfree : ∀ content, t.shapeAt (s.temporary tag) ≠ some (.file content))
    (hwrite : f.write tag t = .error e t') :
    ∃ t₁, MadeAlong f.path.parent.segments t t₁ ∧ ∀ loc, t'.shapeAt loc ≠ t₁.shapeAt loc →
      f.text.isWhole = false ∧ loc = s.temporary tag ∧
        t'.shapeAt loc = some (.file ByteArray.empty) := by
  rcases write_cases tag h t with ⟨e', t₁, hmakes, herror⟩ | ⟨t₁, -, hmade, -, hsame, hends⟩
  · rw [hwrite] at herror
    cases herror
    have hmade := Disk.madeAlong_after f.path.parent t
    unfold after at hmade
    rw [hmakes] at hmade
    exact ⟨t', hmade, fun loc hloc => absurd rfl hloc⟩
  · rw [← hsame, hwrite] at hends
    refine ⟨t₁, hmade, fun loc hloc => ?_⟩
    cases hends with
    | notBegun => exact absurd rfl hloc
    | notEncoded begins text shape =>
      have hhalf := Text.isWhole_eq_false text
      rw [shape] at hloc ⊢
      by_cases hwhere : loc = s.temporary tag
      · rw [hwhere, Function.update_self, bytesOf_of_half hhalf]
        exact ⟨hhalf, rfl, rfl⟩
      · exact absurd (Function.update_of_ne hwhere _ _) hloc
    | notMoved begins _ _ shape =>
      rw [shape] at hloc
      by_cases hwhere : loc = s.temporary tag
      · -- Nothing stood under the temporary name before, and nothing does again.
        have hnone : t₁.shapeAt (s.temporary tag) = none := by
          cases hthere : t₁.shapeAt (s.temporary tag) with
          | none => rfl
          | some sh =>
            cases sh with
            | file content => exact absurd (hmade.file hthere) (hfree content)
            | folder => exact absurd hthere begins.temporary
        rw [hwhere, Function.update_self, hnone] at hloc
        exact absurd rfl hloc
      · exact absurd (Function.update_of_ne hwhere _ _) hloc

/-- A file that is written is put into its slot, after folders were made on the way to it. -/
theorem put_of_write (h : Leads f s) (hwrite : f.write tag t = .ok () t') :
    ∃ t₁, MadeAlong f.path.parent.segments t t₁ ∧ HasRoom tag t₁ f s ∧
      t'.shapeAt = put tag s f.text t₁.shapeAt := by
  rcases write_cases tag h t with ⟨e, t₁, -, herror⟩ | ⟨t₁, -, hmade, hslot, hsame, -⟩
  · rw [hwrite] at herror
    exact absurd herror (by simp)
  · exact ⟨t₁, hmade, ok_of_write hslot (hsame ▸ hwrite)⟩

/-! ## Straight paths -/

theorem segments_eq (hnamed : f.path.segments ≠ []) :
    f.path.parent.segments ++ [f.path.name] = f.path.segments := by
  unfold Path.parent Path.name
  rw [List.getLast?_eq_some_getLast hnamed]
  exact List.dropLast_concat_getLast hnamed

/-- A path that does not go up leads where its segments say. -/
theorem leads_of_straight (hnamed : f.path.segments ≠ []) (hup : Path.up ∉ f.path.segments) :
    Leads f ⟨f.path.parent.segments, f.path.name⟩ := by
  have hsplit := segments_eq hnamed
  have hparent : Path.up ∉ f.path.parent.segments :=
    fun hmem => hup (List.dropLast_subset _ hmem)
  refine ⟨fun heq => hup ?_, ?_, ?_⟩
  · rw [← hsplit, ← heq]
    simp
  · unfold Path.child
    rw [hsplit]
    rfl
  · exact (landing_of_not_mem [] hparent).trans (List.nil_append _)

theorem prefix_of_madeAlong {loc : Location} (hup : Path.up ∉ f.path.segments)
    (h : MadeAlong f.path.parent.segments t t') (hloc : t'.shapeAt loc ≠ t.shapeAt loc) :
    t.shapeAt loc = none ∧ t'.shapeAt loc = some .folder ∧ loc <+: f.path.parent.segments := by
  obtain ⟨hnone, hfolder, pre, hpre, rfl⟩ := h.exists_prefix hloc
  have hstraight : Path.up ∉ pre := fun hmem => hup (List.dropLast_subset _ (hpre.subset hmem))
  rw [landing_of_not_mem [] hstraight, List.nil_append] at hnone hfolder ⊢
  exact ⟨hnone, hfolder, hpre⟩

/-! ## A batch -/

theorem Separate.tail (h : Separate tag (f :: files)) : Separate tag files :=
  ⟨fun g hg => h.named g (List.mem_cons_of_mem _ hg),
    fun g hg => h.straight g (List.mem_cons_of_mem _ hg),
    fun g hg => h.plain g (List.mem_cons_of_mem _ hg), (List.pairwise_cons.mp h.apart).2⟩

theorem prefix_segments (f : ProgramFile) : f.path.parent.segments <+: f.path.segments :=
  List.dropLast_prefix _

theorem not_prefix_parent (hnamed : f.path.segments ≠ []) :
    ¬ f.path.segments <+: f.path.parent.segments := by
  intro hpre
  have hlength := hpre.length_le
  rw [← segments_eq hnamed, List.length_append, List.length_singleton] at hlength
  omega

theorem temporary_segments (f : ProgramFile) : (f.temporaryPath tag).segments =
    f.path.parent.segments ++ [temporaryName tag f.path.name] := rfl

/-- What one file did to the tree, written or not, is at its place, on the way to it or what it
left behind. -/
def Tried (tag : String) (f : ProgramFile) (t t' : FileTree) : Prop :=
  ∀ loc, t'.shapeAt loc ≠ t.shapeAt loc → loc = f.path.segments ∨ LeftBy tag f t' loc ∨
    (t.shapeAt loc = none ∧ t'.shapeAt loc = some .folder ∧ loc <+: f.path.parent.segments)

theorem Tried.of_made (hup : Path.up ∉ f.path.segments)
    (hmade : MadeAlong f.path.parent.segments t t₁)
    (hlast : ∀ loc, t'.shapeAt loc ≠ t₁.shapeAt loc →
      loc = f.path.segments ∨ LeftBy tag f t' loc) : Tried tag f t t' := by
  intro loc hloc
  by_cases hsame : t'.shapeAt loc = t₁.shapeAt loc
  · rw [hsame] at hloc ⊢
    exact Or.inr (Or.inr (prefix_of_madeAlong hup hmade hloc))
  · exact (hlast loc hsame).imp_right Or.inl

section Straight

variable (hfree : ∀ content, t.shapeAt (f.temporaryPath tag).segments ≠ some (.file content))
  (hnamed : f.path.segments ≠ []) (hup : Path.up ∉ f.path.segments)
include hfree hnamed hup

theorem tried_of_error {e : FileError} (hwrite : f.write tag t = .error e t') :
    Tried tag f t t' ∧ t'.shapeAt f.path.segments = t.shapeAt f.path.segments := by
  have hleads := leads_of_straight hnamed hup
  obtain ⟨t₁, hmade, hlast⟩ := changed_of_error hleads hfree hwrite
  refine ⟨.of_made hup hmade fun loc hloc => Or.inr (hlast loc hloc), ?_⟩
  have hplace : t₁.shapeAt f.path.segments = t.shapeAt f.path.segments := by
    by_contra hloc
    exact not_prefix_parent hnamed (prefix_of_madeAlong hup hmade hloc).2.2
  rw [← hplace]
  by_contra hloc
  have hbeside := (hlast _ hloc).2.1
  rw [← segments_eq hnamed] at hbeside
  exact temporary_ne_target tag ⟨f.path.parent.segments, f.path.name⟩ hbeside.symm

theorem tried_of_write (hwrite : f.write tag t = .ok () t') :
    Tried tag f t t' ∧ f.text.isWhole = true ∧
      t'.shapeAt f.path.segments = some (.file (bytesOf f.text)) := by
  obtain ⟨t₁, hmade, hroom, hshape⟩ := put_of_write (leads_of_straight hnamed hup) hwrite
  have htarget : Slot.target ⟨f.path.parent.segments, f.path.name⟩ = f.path.segments :=
    segments_eq hnamed
  refine ⟨.of_made hup hmade fun loc hloc => ?_, hroom.whole, ?_⟩
  · left
    by_contra hat
    rw [← htarget] at hat
    by_cases hbeside : loc = Slot.temporary tag ⟨f.path.parent.segments, f.path.name⟩
    · -- Nothing was at the temporary place before, and nothing is afterwards.
      rw [hbeside, hshape, put_temporary] at hloc
      cases hthere : t₁.shapeAt (Slot.temporary tag ⟨f.path.parent.segments, f.path.name⟩) with
      | none => exact absurd hthere.symm hloc
      | some sh =>
        cases sh with
        | file content => exact absurd (hmade.file hthere) (hfree content)
        | folder => exact absurd hthere hroom.temporary
    · rw [hshape] at hloc
      exact hloc (put_of_ne hat hbeside)
  · rw [← htarget, hshape, put_target]

end Straight

/-! ## Files of a batch beside each other -/

theorem Separate.beside (h : Separate tag (f :: files)) {g : ProgramFile} (hg : g ∈ files) :
    Beside f g := (List.pairwise_cons.mp h.apart).1 g hg

/-- The place of a file is not at or above the temporary place of one beside it. -/
theorem not_prefix_temporary {g : ProgramFile} (hplain : ∀ n, f.path.name ≠ temporaryName tag n)
    (hnamed : f.path.segments ≠ []) (hapart : ¬ f.path.segments <+: g.path.segments) :
    ¬ f.path.segments <+: (g.temporaryPath tag).segments := by
  intro hpre
  rw [temporary_segments] at hpre
  rcases List.prefix_concat_iff.mp hpre with heq | hway
  · rw [← segments_eq hnamed] at heq
    exact hplain _ (List.cons.inj (List.append_inj' heq rfl).2).1
  · exact hapart (hway.trans (prefix_segments g))

theorem temporary_inj {g : ProgramFile} (hf : f.path.segments ≠ []) (hg : g.path.segments ≠ [])
    (h : (f.temporaryPath tag).segments = (g.temporaryPath tag).segments) :
    f.path.segments = g.path.segments := by
  rw [temporary_segments, temporary_segments] at h
  obtain ⟨hparent, hname⟩ := List.append_inj' h rfl
  rw [← segments_eq hf, ← segments_eq hg, hparent,
    temporaryName_inj (List.cons.inj hname).1]

theorem Tried.find_eq (h : Tried tag f t t') {loc : Location} (hloc : ¬ loc <+: f.path.segments)
    (hbeside : ¬ loc <+: (f.temporaryPath tag).segments) : t'.find loc = t.find loc := by
  refine find_eq_of_shapeAt fun rest => ?_
  by_contra hne
  rcases h _ hne with heq | ⟨-, heq, -⟩ | ⟨-, -, hway⟩
  · exact hloc (heq ▸ List.prefix_append loc rest)
  · exact hbeside (heq ▸ List.prefix_append loc rest)
  · exact hloc ((List.prefix_append loc rest).trans (hway.trans (prefix_segments f)))

theorem Parted.find_eq (h : Parted tag files failed t t') {loc : Location}
    (hloc : ∀ f ∈ files, ¬ loc <+: f.path.segments ∧ ¬ loc <+: (f.temporaryPath tag).segments) :
    t'.find loc = t.find loc := by
  refine find_eq_of_shapeAt fun rest => ?_
  by_contra hne
  rcases h.elsewhere _ hne with ⟨f, hf, -, heq⟩ | ⟨f, hf, -, heq, -⟩ | ⟨-, -, f, hf, hway⟩
  · exact (hloc f hf).1 (heq ▸ List.prefix_append loc rest)
  · exact (hloc f (h.order.subset hf)).2 (heq ▸ List.prefix_append loc rest)
  · exact (hloc f hf).1 ((List.prefix_append loc rest).trans (hway.trans (prefix_segments f)))

theorem Tried.elsewhere_cons (hfirst : Tried tag f t t₁) (hrest : Parted tag files failed t₁ t')
    {loc : Location} (hloc : t'.shapeAt loc ≠ t.shapeAt loc) :
    (loc = f.path.segments ∧ t₁.shapeAt loc ≠ t.shapeAt loc) ∨ LeftBy tag f t' loc ∨
      (∃ g ∈ files, g ∉ failed ∧ loc = g.path.segments) ∨ (∃ g ∈ failed, LeftBy tag g t' loc) ∨
        (t.shapeAt loc = none ∧ t'.shapeAt loc = some .folder ∧
          ∃ g ∈ f :: files, loc <+: g.path.parent.segments) := by
  by_cases hold : t₁.shapeAt loc = t.shapeAt loc
  · rw [← hold] at hloc ⊢
    rcases hrest.elsewhere loc hloc with hat | hleft | ⟨hnone, hfolder, g, hg, hway⟩
    · exact Or.inr (Or.inr (Or.inl hat))
    · exact Or.inr (Or.inr (Or.inr (Or.inl hleft)))
    · exact Or.inr (Or.inr (Or.inr (Or.inr
        ⟨hnone, hfolder, g, List.mem_cons_of_mem _ hg, hway⟩)))
  · by_cases hkept : t'.shapeAt loc = t₁.shapeAt loc
    · rcases hfirst loc hold with hat | ⟨hhalf, hat, hempty⟩ | ⟨hnone, hfolder, hway⟩
      · exact Or.inl ⟨hat, hold⟩
      · exact Or.inr (Or.inl ⟨hhalf, hat, hkept.trans hempty⟩)
      · exact Or.inr (Or.inr (Or.inr (Or.inr
          ⟨hnone, hkept.trans hfolder, f, List.mem_cons_self, hway⟩)))
    · rcases hrest.elsewhere loc hkept with hat | hleft | ⟨hmissing, hmade, g, hg, hway⟩
      · exact Or.inr (Or.inr (Or.inl hat))
      · exact Or.inr (Or.inr (Or.inr (Or.inl hleft)))
      · rcases hfirst loc hold with hat | ⟨-, -, hempty⟩ | ⟨-, hfolder, -⟩
        · exact Or.inl ⟨hat, hold⟩
        · rw [hempty] at hmissing
          exact absurd hmissing (by simp)
        · rw [hfolder] at hmissing
          exact absurd hmissing (by simp)

/-- What stands at or below the place of a file stays there while files beside it are tried. -/
theorem Parted.find_place (hsep : Separate tag (f :: files)) (h : Parted tag files failed t t') :
    t'.find f.path.segments = t.find f.path.segments :=
  h.find_eq fun _ hg => ⟨(hsep.beside hg).1, not_prefix_temporary
    (hsep.plain f List.mem_cons_self) (hsep.named f List.mem_cons_self) (hsep.beside hg).1⟩

/-- What stands at the place of a later file stays there while the first is tried. -/
theorem Tried.find_place {g : ProgramFile} (hsep : Separate tag (f :: files)) (hg : g ∈ files)
    (h : Tried tag f t t') : t'.find g.path.segments = t.find g.path.segments :=
  h.find_eq (hsep.beside hg).2 (not_prefix_temporary (hsep.tail.plain g hg)
    (hsep.tail.named g hg) (hsep.beside hg).2)

/-- A file that was written stays where it is while the others are tried. -/
theorem Parted.cons_of_stands (hsep : Separate tag (f :: files)) (hfirst : Tried tag f t t₁)
    (hwhole : f.text.isWhole = true)
    (hstands : t₁.shapeAt f.path.segments = some (.file (bytesOf f.text)))
    (hrest : Parted tag files failed t₁ t') : Parted tag (f :: files) failed t t' := by
  have hnew : f ∉ failed := fun hf => (hsep.beside (hrest.order.subset hf)).1 List.prefix_rfl
  refine ⟨hrest.order.cons f, fun g hg hgood => ?_, fun g hg => ?_, fun loc hloc => ?_⟩
  · rcases List.mem_cons.mp hg with rfl | hg
    · exact ⟨hwhole, (hrest.find_place hsep).trans (shapeAt_eq_file.mp hstands)⟩
    · exact hrest.stands g hg hgood
  · exact (hrest.untouched g hg).trans (hfirst.find_place hsep (hrest.order.subset hg))
  · rcases hfirst.elsewhere_cons hrest hloc with
      ⟨hat, -⟩ | ⟨hhalf, -⟩ | ⟨g, hg, hgood, hat⟩ | hleft | hmade
    · exact Or.inl ⟨f, List.mem_cons_self, hnew, hat⟩
    · rw [hwhole] at hhalf
      exact absurd hhalf (by simp)
    · exact Or.inl ⟨g, List.mem_cons_of_mem _ hg, hgood, hat⟩
    · exact Or.inr (Or.inl hleft)
    · exact Or.inr (Or.inr hmade)

/-- What was in the place of a file that failed stays there while the others are tried. -/
theorem Parted.cons_of_failed (hsep : Separate tag (f :: files)) (hfirst : Tried tag f t t₁)
    (hsame : t₁.shapeAt f.path.segments = t.shapeAt f.path.segments)
    (hrest : Parted tag files failed t₁ t') : Parted tag (f :: files) (f :: failed) t t' := by
  have hnamed := hsep.named f List.mem_cons_self
  have hplace : t₁.find f.path.segments = t.find f.path.segments := by
    refine find_eq_of_shapeAt fun rest => ?_
    by_contra hne
    rcases hfirst _ hne with heq | ⟨-, heq, -⟩ | ⟨-, -, hway⟩
    · rw [heq] at hne
      exact hne hsame
    · have hlength := congrArg List.length heq
      rw [temporary_segments, ← segments_eq hnamed] at heq hlength
      simp only [List.length_append, List.length_singleton] at hlength
      have hnil : rest = [] := List.eq_nil_of_length_eq_zero (by omega)
      rw [hnil, List.append_nil] at heq
      exact temporaryName_ne tag _ (List.cons.inj (List.append_inj' heq rfl).2).1.symm
    · exact not_prefix_parent hnamed ((List.prefix_append _ rest).trans hway)
  have hgood_cons : ∀ g ∈ files, g ∉ failed → g ∉ f :: failed := by
    intro g hg hgood hmem
    rcases List.mem_cons.mp hmem with rfl | hmem
    · exact (hsep.beside hg).1 List.prefix_rfl
    · exact hgood hmem
  refine ⟨hrest.order.cons_cons f, fun g hg hgood => ?_, fun g hg => ?_, fun loc hloc => ?_⟩
  · rcases List.mem_cons.mp hg with rfl | hg
    · exact absurd List.mem_cons_self hgood
    · exact hrest.stands g hg fun hmem => hgood (List.mem_cons_of_mem _ hmem)
  · rcases List.mem_cons.mp hg with rfl | hg
    · exact (hrest.find_place hsep).trans hplace
    · exact (hrest.untouched g hg).trans (hfirst.find_place hsep (hrest.order.subset hg))
  · rcases hfirst.elsewhere_cons hrest hloc with
      ⟨hat, hne⟩ | hleft | ⟨g, hg, hgood, hat⟩ | ⟨g, hg, hleft⟩ | hmade
    · rw [hat] at hne
      exact absurd hsame hne
    · exact Or.inr (Or.inl ⟨f, List.mem_cons_self, hleft⟩)
    · exact Or.inl ⟨g, List.mem_cons_of_mem _ hg, hgood_cons g hg hgood, hat⟩
    · exact Or.inr (Or.inl ⟨g, List.mem_cons_of_mem _ hg, hleft⟩)
    · exact Or.inr (Or.inr hmade)

/-! ## A batch -/

/-- While the first file is tried, no file comes to the temporary place of a later one. -/
theorem Tried.free {g : ProgramFile} (hsep : Separate tag (f :: files)) (hg : g ∈ files)
    (h : Tried tag f t t')
    (hfree : ∀ content, t.shapeAt (g.temporaryPath tag).segments ≠ some (.file content))
    (content : ByteArray) :
    t'.shapeAt (g.temporaryPath tag).segments ≠ some (.file content) := by
  intro hfile
  rcases h _ fun hsame => hfree content (hsame.symm.trans hfile) with
    heq | ⟨-, heq, -⟩ | ⟨-, hmade, -⟩
  · have hlast := heq.symm
    rw [temporary_segments, ← segments_eq (hsep.named f List.mem_cons_self)] at hlast
    exact hsep.plain f List.mem_cons_self _ (List.cons.inj (List.append_inj' hlast rfl).2).1
  · have hsame := temporary_inj (hsep.named f List.mem_cons_self) (hsep.tail.named g hg) heq.symm
    exact (hsep.beside hg).1 (hsame ▸ List.prefix_rfl)
  · rw [hfile] at hmade
    exact absurd hmade (by simp)

theorem parted_writeEach (hsep : Separate tag files)
    (hfree : ∀ f ∈ files, ∀ content,
      t.shapeAt (f.temporaryPath tag).segments ≠ some (.file content)) :
    Parted tag files ((writeEach tag files t).1.map Prod.fst) t (writeEach tag files t).2 := by
  induction files generalizing t with
  | nil =>
    exact ⟨List.Sublist.refl _, fun f hf => absurd hf (by simp), fun f hf => absurd hf (by
      simp [writeEach]), fun loc hloc => absurd rfl hloc⟩
  | cons f files ih =>
    have hnamed := hsep.named f List.mem_cons_self
    have hup := hsep.straight f List.mem_cons_self
    have hfirstFree := hfree f List.mem_cons_self
    have hrestFree := fun g hg => hfree g (List.mem_cons_of_mem f hg)
    rw [writeEach]
    cases hwrite : f.write tag t with
    | ok u t₁ =>
      obtain ⟨hfirst, hwhole, hstands⟩ := tried_of_write hfirstFree hnamed hup hwrite
      exact (ih hsep.tail fun g hg => hfirst.free hsep hg (hrestFree g hg)).cons_of_stands hsep
        hfirst hwhole hstands
    | error e t₁ =>
      obtain ⟨hfirst, hsame⟩ := tried_of_error hfirstFree hnamed hup hwrite
      exact (ih hsep.tail fun g hg => hfirst.free hsep hg (hrestFree g hg)).cons_of_failed hsep
        hfirst hsame

theorem Parted.onlyLeft (hsep : Separate tag files) (hfree : NoTemporary tag t)
    (h : Parted tag files failed t t') : OnlyLeft tag failed t' := by
  intro loc n content hfile
  rw [← shapeAt_eq_file] at hfile
  have hnew : t'.shapeAt (loc ++ [temporaryName tag n]) ≠
      t.shapeAt (loc ++ [temporaryName tag n]) :=
    fun hsame => hfree loc n content (shapeAt_eq_file.mp (hsame.symm.trans hfile))
  rcases h.elsewhere _ hnew with ⟨f, hf, -, heq⟩ | hleft | ⟨-, hmade, -⟩
  · rw [← segments_eq (hsep.named f hf)] at heq
    exact absurd (List.cons.inj (List.append_inj' heq rfl).2).1.symm (hsep.plain f hf n)
  · exact hleft
  · rw [hfile] at hmade
    exact absurd hmade (by simp)

/-- Each file of a batch is written or leaves its place as it was, and all that failed is told, in
the order of the batch.  If a failure is none of the operating system's, then the path has a null
character or the text a half, and the first such failure is told alone; where it is the text, an
empty file may be left under the temporary name. -/
theorem writeAll_parted (htag : '\x00' ∉ tag.toList) (hsep : Separate tag files)
    (hfree : NoTemporary tag w.tree) :
    ∃ failed : List (ProgramFile × FileError),
      Parted tag files (failed.map Prod.fst) w.tree (after (writeAll tag files) w).tree ∧
        OnlyLeft tag (failed.map Prod.fst) (after (writeAll tag files) w).tree ∧
        (∀ x ∈ failed, (∃ t₁ t₂, x.1.write tag t₁ = .error x.2 t₂) ∧
          (x.2.isSystem = true ∨ (x.2.fault = .nullCharacter ∧ x.1.path.hasNull = true) ∨
            ∃ halves, x.2.fault = .notEncodable halves ∧ x.1.text.halves? = some halves)) ∧
        Told files failed (writeAll tag files w) := by
  have hparted : Parted tag files ((writeEach tag files w.tree).1.map Prod.fst) w.tree
      (after (writeAll tag files) w).tree := by
    rw [tree_after_writeAll]
    exact parted_writeEach hsep fun f _ content hfile =>
      hfree _ _ content (shapeAt_eq_file.mp hfile)
  refine ⟨(writeEach tag files w.tree).1, hparted, hparted.onlyLeft hsep hfree, fun x hx => ?_,
    (told_writeAll tag files w).1⟩
  obtain ⟨hmem, t₁, t₂, hwrite⟩ := exists_error_of_writeEach x hx
  have hleads := leads_of_straight (hsep.named _ hmem) (hsep.straight _ hmem)
  refine ⟨⟨t₁, t₂, hwrite⟩, ?_⟩
  rcases error_of_write htag hleads hwrite with (hsystem | hnull) | ⟨halves, htext, hfault⟩
  · exact Or.inl hsystem
  · exact Or.inr (Or.inl hnull)
  · exact Or.inr (Or.inr ⟨halves, hfault, htext⟩)

/-! ## One batch -/

theorem ne_temporaryName {n : String} (h : n.toList.head? ≠ some '.') (m : String) :
    n ≠ temporaryName tag m := by
  rintro rfl
  refine h ?_
  unfold temporaryName
  simp

theorem noTemporary_of_names (h : ∀ n ∈ Entries.names t.entries, n.toList.head? ≠ some '.') :
    NoTemporary tag t := by
  intro loc n content hfile
  have hthere : t.shapeAt (loc ++ [temporaryName tag n]) ≠ none := by
    rw [shapeAt_eq_file.mpr hfile]
    simp
  exact ne_temporaryName (h _ (Entries.mem_names hthere)) n rfl

theorem separate_of_names (hnamed : ∀ f ∈ files, f.path.segments ≠ [])
    (hup : ∀ f ∈ files, Path.up ∉ f.path.segments)
    (hplain : ∀ f ∈ files, f.path.name.toList.head? ≠ some '.') (hapart : files.Pairwise Beside) :
    Separate tag files :=
  ⟨hnamed, hup, fun f hf n => ne_temporaryName (hplain f hf) n, hapart⟩

instance : DecidableRel Beside := fun f g =>
  inferInstanceAs (Decidable (¬ f.path.segments <+: g.path.segments ∧
    ¬ g.path.segments <+: f.path.segments))

/-- A folder and a file. -/
def barredTree : FileTree :=
  ⟨[("d", .folder []), ("f", .file (bytesOf ""))],
    by simp only [Node.OrderedEntries, Node.Ordered]; decide⟩

/-- A file where the folder is, one in a new folder, one below the file, and one whose text cannot
be written. -/
def barredFiles : List ProgramFile :=
  [⟨.card, Path.ofString "/d", "x.\n"⟩, ⟨.base, Path.ofString "/n/b.lp", "y.\n"⟩,
    ⟨.main, Path.ofString "/f/m.lp", "z.\n"⟩, ⟨.modules, Path.ofString "/h.lp", [.half 0]⟩]

theorem writeAll_parted_barred :
    Separate "7-7" barredFiles ∧ NoTemporary "7-7" barredTree ∧
      ((writeEach "7-7" barredFiles barredTree).1.map fun x => (x.1.kind, x.2.fault)) =
        [(.card, .isAFolder), (.main, .alreadyExists), (.modules, .notEncodable ⟨0, 0, 0⟩)] ∧
      ∃ failed : List (ProgramFile × FileError),
        Parted "7-7" barredFiles (failed.map Prod.fst) barredTree
            (after (writeAll "7-7" barredFiles) ⟨barredTree, [], []⟩).tree ∧
          OnlyLeft "7-7" (failed.map Prod.fst)
            (after (writeAll "7-7" barredFiles) ⟨barredTree, [], []⟩).tree ∧
          Told barredFiles failed (writeAll "7-7" barredFiles ⟨barredTree, [], []⟩) := by
  have hsep : Separate "7-7" barredFiles :=
    separate_of_names (by decide +kernel) (by decide +kernel) (by decide +kernel)
      (by decide +kernel)
  have hfree : NoTemporary "7-7" barredTree := noTemporary_of_names (by decide +kernel)
  obtain ⟨failed, hparted, hleft, -, htold⟩ :=
    writeAll_parted (w := ⟨barredTree, [], []⟩) (by decide) hsep hfree
  exact ⟨hsep, hfree, by decide +kernel, failed, hparted, hleft, htold⟩

/-- A file where the folder is, and one whose path has a null character. -/
def nullFiles : List ProgramFile :=
  [⟨.card, Path.ofString "/d", "x.\n"⟩, ⟨.main, Path.ofString "/m\x00", "z.\n"⟩]

/-- Two files fail, and one failure is told. -/
theorem null_told_alone :
    Separate "7-7" nullFiles ∧ NoTemporary "7-7" barredTree ∧
      (writeEach "7-7" nullFiles barredTree).1.map Prod.fst = nullFiles ∧
      ∃ e w', writeAll "7-7" nullFiles ⟨barredTree, [], []⟩ = .error (.file e) w' ∧
        e.fault = .nullCharacter := by
  have hsep : Separate "7-7" nullFiles :=
    separate_of_names (by decide +kernel) (by decide +kernel) (by decide +kernel)
      (by decide +kernel)
  have hfree : NoTemporary "7-7" barredTree := noTemporary_of_names (by decide +kernel)
  have hboth : (writeEach "7-7" nullFiles barredTree).1.map Prod.fst = nullFiles := by
    decide +kernel
  have hnull : ((writeEach "7-7" nullFiles barredTree).1.find? (!·.2.isSystem)).map
      (·.2.fault) = some .nullCharacter := by decide +kernel
  have htold := (told_writeAll "7-7" nullFiles ⟨barredTree, [], []⟩).1
  cases hresult : writeAll "7-7" nullFiles ⟨barredTree, [], []⟩ with
  | ok paths w' =>
    rw [hresult] at htold
    cases htold with
    | written all => exact absurd (hboth.symm.trans (congrArg _ all)) (by simp [nullFiles])
  | error e w' =>
    rw [hresult] at htold
    cases htold with
    | alone first =>
      rw [first] at hnull
      exact ⟨hsep, hfree, hboth, _, w', rfl, Option.some.inj hnull⟩
    | together _ system =>
      rw [system] at hnull
      exact absurd hnull (by simp)

end CardLogic.ProgramFile
