import CardLogic.Proofs.Corpus.Layout

/-!
What a program folder holds, and nothing else.

`HoldsJust` fixes everything at and below the program folder: some files stand in their
slots, and there is nothing beside them.  Writing a batch adds its files
(`HoldsJust.putAll`), and removing a file takes just that one away (`HoldsJust.erase`).
-/

namespace CardLogic.Corpus

open FileTree ProgramFile

/-- The program folder holds these files, each in its slot, and nothing else. -/
structure HoldsJust (home : Location) (files : List (ProgramFile × Slot))
    (shapes : Location → Option Shape) : Prop where
  program : shapes (programAt home) = some .folder
  cards : shapes (cardsAt home) = some .folder
  stands : ∀ x ∈ files, x.1.text.StandsIn (shapes x.2.target)
  nothing : ∀ loc, programAt home <+: loc → loc ≠ programAt home → loc ≠ cardsAt home →
    (∀ x ∈ files, loc ≠ x.2.target) → shapes loc = none

variable {home : Location} {files old new all : List (ProgramFile × Slot)} {tag : String}
  {t t' : FileTree} {shapes shapes' : Location → Option Shape}

theorem HoldsJust.congr (h : HoldsJust home files shapes)
    (hsame : ∀ loc, programAt home <+: loc → shapes' loc = shapes loc)
    (hslots : ∀ x ∈ files, programAt home <+: x.2.folder) : HoldsJust home files shapes' := by
  refine ⟨?_, ?_, fun x hx => ?_, fun loc hloc => ?_⟩
  · rw [hsame _ List.prefix_rfl]
    exact h.program
  · have hcards : programAt home <+: cardsAt home := List.prefix_append _ _
    rw [hsame _ hcards]
    exact h.cards
  · have hbelow : programAt home <+: x.2.target := (hslots x hx).trans (List.prefix_append _ _)
    rw [hsame _ hbelow]
    exact h.stands x hx
  · rw [hsame loc hloc]
    exact h.nothing loc hloc

/-- After a batch was written, its files stand, and of the others those in no slot of it. -/
theorem HoldsJust.putAll (h : HoldsJust home old t.shapeAt) (htag : IsTag tag)
    (hapart : Apart tag new) (hroom : ∀ x ∈ new, HasRoom tag t x.1 x.2)
    (hnames : ∀ x ∈ all, ∃ k, x.2.name = cardName k)
    (hall : ∀ x ∈ all, x ∈ new ∨ x ∈ old ∧ ∀ y ∈ new, y.2 ≠ x.2)
    (hslots : ∀ x, x ∈ old ∨ x ∈ new → ∃ y ∈ all, y.2 = x.2) :
    HoldsJust home all (ProgramFile.putAll tag new t.shapeAt) := by
  refine ⟨?_, ?_, fun x hx => ?_, fun loc hloc hprogram hcards hne => ?_⟩
  · exact (folder_putAll_iff hroom _).mpr h.program
  · exact (folder_putAll_iff hroom _).mpr h.cards
  · rcases hall x hx with hnew | ⟨hold, hother⟩
    · exact ⟨(hroom x hnew).whole, putAll_target hapart hnew⟩
    · rw [putAll_of_ne]
      · exact h.stands x hold
      · exact fun y hy heq => hother y hy (Slot.target_inj heq).symm
      · intro y hy heq
        obtain ⟨k, hk⟩ := hnames x hx
        have hname := (List.append_inj' heq rfl).2
        simp only [List.cons.injEq, and_true] at hname
        exact temporaryName_ne_cardName htag y.2.name k (hname.symm.trans hk)
  · by_cases htemporary : ∃ y ∈ new, loc = y.2.temporary tag
    · obtain ⟨⟨f, s⟩, hy, rfl⟩ := htemporary
      exact putAll_temporary hapart hy
    · have hno : ∀ x, x ∈ old ∨ x ∈ new → loc ≠ x.2.target := by
        intro x hx heq
        obtain ⟨y, hy, hslot⟩ := hslots x hx
        exact hne y hy (by rw [hslot]; exact heq)
      rw [putAll_of_ne]
      · exact h.nothing loc hloc hprogram hcards fun x hx => hno x (Or.inl hx)
      · exact fun x hx => hno x (Or.inr hx)
      · exact fun x hx heq => htemporary ⟨x, hx, heq⟩

/-- The files that stay if the one in a slot goes. -/
def others (s : Slot) (files : List (ProgramFile × Slot)) : List (ProgramFile × Slot) :=
  files.filter fun x => x.2 ≠ s

theorem mem_others {s : Slot} {x : ProgramFile × Slot} :
    x ∈ others s files ↔ x ∈ files ∧ x.2 ≠ s := by
  unfold others
  rw [List.mem_filter, decide_eq_true_eq]

theorem HoldsJust.erase {s : Slot} (h : HoldsJust home files shapes)
    (hs : shapes s.target ≠ some .folder) :
    HoldsJust home (others s files) (Function.update shapes s.target none) := by
  refine ⟨?_, ?_, fun x hx => ?_, fun loc hloc hprogram hcards hne => ?_⟩
  · rw [Function.update_of_ne]
    · exact h.program
    · intro heq
      rw [← heq] at hs
      exact hs h.program
  · rw [Function.update_of_ne]
    · exact h.cards
    · intro heq
      rw [← heq] at hs
      exact hs h.cards
  · obtain ⟨hx, hslot⟩ := mem_others.mp hx
    rw [Function.update_of_ne fun heq => hslot (Slot.target_inj heq)]
    exact h.stands x hx
  · by_cases heq : loc = s.target
    · rw [heq, Function.update_self]
    · rw [Function.update_of_ne heq]
      refine h.nothing loc hloc hprogram hcards fun x hx hx' => ?_
      by_cases hslot : x.2 = s
      · rw [hslot] at hx'
        exact heq hx'
      · exact hne x (mem_others.mpr ⟨hx, hslot⟩) hx'

/-- Two folders are the same wherever they hold the same file, or none. -/
theorem HoldsJust.eq_at {files' : List (ProgramFile × Slot)} (h : HoldsJust home files shapes)
    (h' : HoldsJust home files' shapes') {loc : Location} (hloc : programAt home <+: loc)
    (hfiles : ∀ x, loc = x.2.target → (x ∈ files ↔ x ∈ files')) : shapes loc = shapes' loc := by
  by_cases hprogram : loc = programAt home
  · rw [hprogram, h.program, h'.program]
  · by_cases hcards : loc = cardsAt home
    · rw [hcards, h.cards, h'.cards]
    · by_cases htarget : ∃ x ∈ files, loc = x.2.target
      · obtain ⟨x, hx, rfl⟩ := htarget
        rw [(h.stands x hx).2, (h'.stands x ((hfiles x rfl).mp hx)).2]
      · rw [h.nothing loc hloc hprogram hcards fun x hx heq => htarget ⟨x, hx, heq⟩]
        refine (h'.nothing loc hloc hprogram hcards fun x hx heq => ?_).symm
        exact htarget ⟨x, (hfiles x heq).mpr hx, heq⟩

end CardLogic.Corpus
