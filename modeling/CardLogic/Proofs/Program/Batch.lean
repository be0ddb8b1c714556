import CardLogic.Proofs.Program.Writing

/-!
What writing a batch of program files does to a tree.

A batch succeeds exactly if every file of it has room in the tree before
(`writeEach_ok`, `writeEach_of_room`), for a file written takes no room from another.  If no
slot is used twice and no temporary place is a file's own, then in the end every file
stands, no temporary one does, and nothing else is different (`putAll_target`,
`putAll_temporary`, `putAll_of_ne`).  All that follows for a batch that was written is said once
(`Placed`).  What a batch returns or raises is settled by the files of it that failed
(`told_writeAll`).
-/

namespace CardLogic.ProgramFile

open FileTree

/-- The shapes of a tree after files were put into their slots. -/
def putAll (tag : String) :
    List (ProgramFile × Slot) → (Location → Option Shape) → Location → Option Shape
  | [], shapes => shapes
  | (f, s) :: batch, shapes => putAll tag batch (put tag s f.text shapes)

/-- No slot is used twice, and no temporary place is a file's own. -/
structure Apart (tag : String) (batch : List (ProgramFile × Slot)) : Prop where
  once : (batch.map Prod.snd).Nodup
  temporary : ∀ x ∈ batch, ∀ y ∈ batch, x.2.temporary tag ≠ y.2.target

variable {tag : String} {t t' : FileTree} {f : ProgramFile} {s : Slot}
  {shapes : Location → Option Shape} {loc : Location} {batch : List (ProgramFile × Slot)}

/-! ## The shapes -/

theorem put_target (tag : String) (s : Slot) (text : Text) (shapes : Location → Option Shape) :
    put tag s text shapes s.target = some (.file (bytesOf text)) := Function.update_self _ _ _

theorem put_temporary (tag : String) (s : Slot) (text : Text)
    (shapes : Location → Option Shape) : put tag s text shapes (s.temporary tag) = none := by
  unfold put
  rw [Function.update_of_ne (temporary_ne_target tag s), Function.update_self]

theorem put_of_ne {text : Text} (htarget : loc ≠ s.target) (htemporary : loc ≠ s.temporary tag) :
    put tag s text shapes loc = shapes loc := by
  unfold put
  rw [Function.update_of_ne htarget, Function.update_of_ne htemporary]

/-- Putting files makes no folder. -/
theorem folder_of_put {text : Text} (h : put tag s text shapes loc = some .folder) :
    shapes loc = some .folder := by
  by_cases htarget : loc = s.target
  · rw [htarget, put_target] at h
    exact absurd h (by simp)
  · by_cases htemporary : loc = s.temporary tag
    · rw [htemporary, put_temporary] at h
      exact absurd h (by simp)
    · rwa [put_of_ne htarget htemporary] at h

theorem folder_put {text : Text} (htarget : shapes s.target ≠ some .folder)
    (htemporary : shapes (s.temporary tag) ≠ some .folder) (h : shapes loc = some .folder) :
    put tag s text shapes loc = some .folder := by
  rw [put_of_ne, h]
  · intro heq
    subst heq
    exact htarget h
  · intro heq
    subst heq
    exact htemporary h

theorem putAll_of_ne (htarget : ∀ x ∈ batch, loc ≠ x.2.target)
    (htemporary : ∀ x ∈ batch, loc ≠ x.2.temporary tag) :
    putAll tag batch shapes loc = shapes loc := by
  induction batch generalizing shapes with
  | nil => rfl
  | cons x batch ih =>
    obtain ⟨f, s⟩ := x
    rw [putAll, ih (fun y hy => htarget y (List.mem_cons_of_mem _ hy))
      (fun y hy => htemporary y (List.mem_cons_of_mem _ hy))]
    exact put_of_ne (htarget _ List.mem_cons_self) (htemporary _ List.mem_cons_self)

theorem putAll_temporary (h : Apart tag batch) (hx : (f, s) ∈ batch) :
    putAll tag batch shapes (s.temporary tag) = none := by
  -- Once nothing stands at a temporary place, no later file puts anything there.
  have hkeep : ∀ (rest : List (ProgramFile × Slot)) (shapes : Location → Option Shape),
      (∀ y ∈ rest, s.temporary tag ≠ y.2.target) → shapes (s.temporary tag) = none →
        putAll tag rest shapes (s.temporary tag) = none := by
    intro rest
    induction rest with
    | nil => exact fun _ _ hnone => hnone
    | cons y rest ih =>
      intro shapes hne hnone
      rw [putAll]
      refine ih _ (fun z hz => hne z (List.mem_cons_of_mem _ hz)) ?_
      by_cases htemporary : s.temporary tag = y.2.temporary tag
      · rw [htemporary]
        exact put_temporary _ _ _ _
      · rw [put_of_ne (hne y List.mem_cons_self) htemporary, hnone]
  induction batch generalizing shapes with
  | nil => exact absurd hx (by simp)
  | cons x batch ih =>
    have hrest : Apart tag batch :=
      ⟨(List.nodup_cons.mp h.once).2, fun y hy z hz =>
        h.temporary y (List.mem_cons_of_mem _ hy) z (List.mem_cons_of_mem _ hz)⟩
    rw [putAll]
    rcases List.mem_cons.mp hx with rfl | hx
    · refine hkeep batch _ (fun y hy => ?_) (put_temporary _ _ _ _)
      exact h.temporary _ List.mem_cons_self y (List.mem_cons_of_mem _ hy)
    · exact ih hrest hx

theorem putAll_target (h : Apart tag batch) (hx : (f, s) ∈ batch) :
    putAll tag batch shapes s.target = some (.file (bytesOf f.text)) := by
  induction batch generalizing shapes with
  | nil => exact absurd hx (by simp)
  | cons x batch ih =>
    have hrest : Apart tag batch :=
      ⟨(List.nodup_cons.mp h.once).2, fun y hy z hz =>
        h.temporary y (List.mem_cons_of_mem _ hy) z (List.mem_cons_of_mem _ hz)⟩
    rw [putAll]
    rcases List.mem_cons.mp hx with rfl | hx
    · rw [putAll_of_ne, put_target]
      · intro y hy hsame
        refine (List.nodup_cons.mp h.once).1 ?_
        rw [Slot.target_inj hsame]
        exact List.mem_map.mpr ⟨y, hy, rfl⟩
      · intro y hy hsame
        exact h.temporary y (List.mem_cons_of_mem _ hy) _ List.mem_cons_self hsame.symm
    · exact ih hrest hx

/-- Putting the same files again changes nothing. -/
theorem putAll_putAll (h : Apart tag batch) :
    putAll tag batch (putAll tag batch shapes) = putAll tag batch shapes := by
  funext loc
  by_cases htarget : ∃ x ∈ batch, loc = x.2.target
  · obtain ⟨⟨f, s⟩, hx, rfl⟩ := htarget
    rw [putAll_target h hx, putAll_target h hx]
  · by_cases htemporary : ∃ x ∈ batch, loc = x.2.temporary tag
    · obtain ⟨⟨f, s⟩, hx, rfl⟩ := htemporary
      rw [putAll_temporary h hx, putAll_temporary h hx]
    · rw [putAll_of_ne]
      · exact fun x hx heq => htarget ⟨x, hx, heq⟩
      · exact fun x hx heq => htemporary ⟨x, hx, heq⟩

/-! ## The writing -/

theorem HasRoom.of_folders {g : ProgramFile} {r : Slot}
    (hfolders : ∀ loc, t'.shapeAt loc = some .folder → t.shapeAt loc = some .folder)
    (h : HasRoom tag t g r) : HasRoom tag t' g r :=
  ⟨⟨h.fits, h.short, fun hf => h.temporary (hfolders _ hf)⟩, h.whole,
    fun hf => h.target (hfolders _ hf)⟩

theorem HasRoom.of_path {g : ProgramFile} (h : HasRoom tag t f s) (hpath : g.path = f.path)
    (hwhole : g.text.isWhole = true) : HasRoom tag t g s := by
  refine ⟨⟨?_, h.short, h.temporary⟩, hwhole, h.target⟩
  unfold ProgramFile.temporaryPath
  rw [hpath]
  exact h.fits

theorem folders_kept_of_put (hroom : HasRoom tag t f s)
    (hshape : t'.shapeAt = put tag s f.text t.shapeAt) (loc : Location)
    (h : t.shapeAt loc = some .folder) : t'.shapeAt loc = some .folder := by
  rw [hshape]
  exact folder_put hroom.target hroom.temporary h

theorem writeEach_of_room (hslots : ∀ x ∈ batch, HasSlot t x.1 x.2)
    (hroom : ∀ x ∈ batch, HasRoom tag t x.1 x.2) :
    ∃ t', writeEach tag (batch.map Prod.fst) t = ([], t') ∧
      t'.shapeAt = putAll tag batch t.shapeAt := by
  induction batch generalizing t with
  | nil => exact ⟨t, rfl, rfl⟩
  | cons x batch ih =>
    obtain ⟨f, s⟩ := x
    obtain ⟨t₁, hwrite, hshape⟩ :=
      write_of_room (hslots _ List.mem_cons_self) (hroom _ List.mem_cons_self)
    have hkept := folders_kept_of_put (hroom _ List.mem_cons_self) hshape
    obtain ⟨t', hrest, hshape'⟩ := ih
      (fun y hy => (hslots y (List.mem_cons_of_mem _ hy)).of_kept hkept)
      (fun y hy => (hroom y (List.mem_cons_of_mem _ hy)).of_folders fun loc hloc =>
        folder_of_put (by rw [← hshape]; exact hloc))
    refine ⟨t', ?_, ?_⟩
    · rw [List.map_cons, writeEach, hwrite]
      exact hrest
    · rw [hshape', hshape, putAll]

theorem writeEach_ok (hslots : ∀ x ∈ batch, HasSlot t x.1 x.2)
    (h : writeEach tag (batch.map Prod.fst) t = ([], t')) :
    (∀ x ∈ batch, HasRoom tag t x.1 x.2) ∧ t'.shapeAt = putAll tag batch t.shapeAt := by
  induction batch generalizing t with
  | nil =>
    cases h
    exact ⟨by simp, rfl⟩
  | cons x batch ih =>
    obtain ⟨f, s⟩ := x
    have hslot := hslots _ List.mem_cons_self
    rw [List.map_cons, writeEach] at h
    cases hwrite : f.write tag t with
    | error e t₁ => rw [hwrite] at h; exact absurd (congrArg Prod.fst h) (by simp)
    | ok u t₁ =>
      rw [hwrite] at h
      obtain ⟨hroom, hshape⟩ := ok_of_write hslot hwrite
      have hkept := folders_kept_of_put hroom hshape
      obtain ⟨hrooms, hshape'⟩ :=
        ih (fun y hy => (hslots y (List.mem_cons_of_mem _ hy)).of_kept hkept) h
      refine ⟨?_, by rw [hshape', hshape, putAll]⟩
      intro y hy
      rcases List.mem_cons.mp hy with rfl | hy
      · exact hroom
      · exact (hrooms y hy).of_folders hkept

/-- A batch that has room takes no folder away and brings none. -/
theorem folder_putAll_iff (hroom : ∀ x ∈ batch, HasRoom tag t x.1 x.2) (loc : Location) :
    putAll tag batch t.shapeAt loc = some .folder ↔ t.shapeAt loc = some .folder := by
  have hslots : ∀ x ∈ batch, t.shapeAt (x.2.temporary tag) ≠ some .folder ∧
      t.shapeAt x.2.target ≠ some .folder :=
    fun x hx => ⟨(hroom x hx).temporary, (hroom x hx).target⟩
  generalize t.shapeAt = shapes at hslots
  clear hroom
  induction batch generalizing shapes with
  | nil => rfl
  | cons x batch ih =>
    obtain ⟨f, s⟩ := x
    obtain ⟨htemporary, htarget⟩ := hslots _ List.mem_cons_self
    rw [putAll]
    refine (ih _ fun y hy => ?_).trans ⟨folder_of_put, folder_put htarget htemporary⟩
    obtain ⟨hy, hy'⟩ := hslots y (List.mem_cons_of_mem _ hy)
    exact ⟨fun hf => hy (folder_of_put hf), fun hf => hy' (folder_of_put hf)⟩

/-! ## Batches in place -/

/-- A batch was written: each of its files had room in its slot and was put there. -/
structure Placed (tag : String) (batch : List (ProgramFile × Slot)) (t t' : FileTree) : Prop where
  slots : ∀ x ∈ batch, HasSlot t x.1 x.2
  room : ∀ x ∈ batch, HasRoom tag t x.1 x.2
  apart : Apart tag batch
  shapes : t'.shapeAt = putAll tag batch t.shapeAt

theorem placed_of_writeEach (hslots : ∀ x ∈ batch, HasSlot t x.1 x.2) (hapart : Apart tag batch)
    (h : writeEach tag (batch.map Prod.fst) t = ([], t')) : Placed tag batch t t' := by
  obtain ⟨hroom, hshapes⟩ := writeEach_ok hslots h
  exact ⟨hslots, hroom, hapart, hshapes⟩

namespace Placed

theorem folder_iff (h : Placed tag batch t t') (loc : Location) :
    t'.shapeAt loc = some .folder ↔ t.shapeAt loc = some .folder := by
  rw [h.shapes]
  exact folder_putAll_iff h.room loc

theorem kept (h : Placed tag batch t t') (loc : Location) (hloc : t.shapeAt loc = some .folder) :
    t'.shapeAt loc = some .folder := (h.folder_iff loc).mpr hloc

theorem resolve (h : Placed tag batch t t') (hx : (f, s) ∈ batch) :
    t.resolve f.path = .ok s.target :=
  (h.slots _ hx).resolve_target (h.room _ hx).fits (h.room _ hx).short

theorem resolve_after (h : Placed tag batch t t') (hx : (f, s) ∈ batch) :
    t'.resolve f.path = .ok s.target := resolve_of_kept h.kept (h.resolve hx)

/-- Every file stands in its slot. -/
theorem stands (h : Placed tag batch t t') (hx : (f, s) ∈ batch) :
    f.text.StandsIn (t'.shapeAt s.target) := by
  rw [h.shapes]
  exact ⟨(h.room _ hx).whole, putAll_target h.apart hx⟩

theorem readBytes (h : Placed tag batch t t') (hx : (f, s) ∈ batch) :
    t'.readBytes f.path = .ok (bytesOf f.text) :=
  readBytes_of_file (h.resolve_after hx) (h.stands hx).2

theorem temporary (h : Placed tag batch t t') (hx : (f, s) ∈ batch) :
    t'.shapeAt (s.temporary tag) = none := by
  rw [h.shapes]
  exact putAll_temporary h.apart hx

theorem elsewhere (h : Placed tag batch t t')
    (hloc : ∀ x ∈ batch, loc ≠ x.2.target ∧ loc ≠ x.2.temporary tag) :
    t'.shapeAt loc = t.shapeAt loc := by
  rw [h.shapes]
  exact putAll_of_ne (fun x hx => (hloc x hx).1) fun x hx => (hloc x hx).2

/-- What was written can be written again, and is the same. -/
theorem again (h : Placed tag batch t t') : writeEach tag (batch.map Prod.fst) t' = ([], t') := by
  obtain ⟨t₂, hwrite, hshapes⟩ := writeEach_of_room
    (fun x hx => (h.slots x hx).of_kept h.kept)
    fun x hx => (h.room x hx).of_folders fun loc => (h.folder_iff loc).mp
  have hsame : t₂ = t' := by
    refine ext_shapeAt fun loc => ?_
    rw [hshapes, h.shapes, putAll_putAll h.apart]
  rw [hsame] at hwrite
  exact hwrite

end Placed

/-! ## What is told -/

/-- What a batch returns or raises, by the files of it that failed: all of them, or the first error
that is none of the operating system's. -/
inductive Told (files : List ProgramFile) (failed : List (ProgramFile × FileError)) :
    EStateM.Result Failure Workspace (List Path) → Prop
  | written {w : Workspace} (all : failed = []) : Told files failed (.ok (files.map path) w)
  | alone {x : ProgramFile × FileError} {w : Workspace}
      (first : failed.find? (!·.2.isSystem) = some x) : Told files failed (.error (.file x.2) w)
  | together {w : Workspace} (any : failed ≠ []) (system : failed.find? (!·.2.isSystem) = none) :
      Told files failed (.error (.notWritten files.length failed) w)

variable {files : List ProgramFile} {w w' : Workspace}

theorem told_writeAll (tag : String) (files : List ProgramFile) (w : Workspace) :
    Told files (writeEach tag files w.tree).1 (writeAll tag files w) ∧
      (after (writeAll tag files) w).tree = (writeEach tag files w.tree).2 := by
  unfold after writeAll
  by_cases hnil : files = []
  · subst hnil
    exact ⟨.written rfl, rfl⟩
  · rw [if_neg hnil]
    simp only [bind, EStateM.bind]
    generalize writeEach tag files w.tree = r
    obtain ⟨failed, t⟩ := r
    dsimp only
    cases hfind : failed.find? (!·.2.isSystem) with
    | some x => exact ⟨.alone hfind, rfl⟩
    | none =>
      by_cases hfailed : failed = []
      · subst hfailed
        exact ⟨.written rfl, rfl⟩
      · simp only [if_pos hfailed]
        exact ⟨.together hfailed hfind, rfl⟩

theorem tree_after_writeAll (tag : String) (files : List ProgramFile) (w : Workspace) :
    (after (writeAll tag files) w).tree = (writeEach tag files w.tree).2 :=
  (told_writeAll tag files w).2

/-- A batch that is written: all of it, one file after the other. -/
theorem ok_of_writeAll {paths : List Path} (h : writeAll tag files w = .ok paths w') :
    paths = files.map ProgramFile.path ∧ writeEach tag files w.tree = ([], w'.tree) := by
  obtain ⟨htold, htree⟩ := told_writeAll tag files w
  rw [after_of_ok h] at htree
  rw [h] at htold
  cases htold with
  | written all => exact ⟨rfl, Prod.ext all htree.symm⟩

theorem writeAll_of_written (h : writeEach tag files w.tree = ([], t')) :
    ∃ w', writeAll tag files w = .ok (files.map ProgramFile.path) w' ∧ w'.tree = t' := by
  obtain ⟨htold, htree⟩ := told_writeAll tag files w
  rw [h] at htold htree
  cases hresult : writeAll tag files w with
  | error e w' =>
    rw [hresult] at htold
    cases htold with
    | alone first => exact absurd first (by simp)
    | together any => exact absurd rfl any
  | ok paths w' =>
    rw [hresult] at htold
    rw [after_of_ok hresult] at htree
    cases htold
    exact ⟨w', rfl, htree⟩

/-- A batch that fails tells all its failures, or the first that is none of the operating
system's. -/
theorem error_of_writeAll {e : Failure} (h : writeAll tag files w = .error e w') :
    (∃ failed, e = .notWritten files.length failed) ∨
      ∃ x ∈ (writeEach tag files w.tree).1, x.2.isSystem = false ∧ e = .file x.2 := by
  have htold := (told_writeAll tag files w).1
  rw [h] at htold
  cases htold with
  | together => exact Or.inl ⟨_, rfl⟩
  | alone first =>
    exact Or.inr ⟨_, List.mem_of_find?_eq_some first, by simpa using List.find?_some first, rfl⟩

end CardLogic.ProgramFile
