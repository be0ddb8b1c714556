import CardLogic.Text.Blank

/-!
Stripping a text of the blanks at its ends.

Blanks put around a text do not show in what is left of it (`strip_pad`), and a
character that is not blank always stays (`mem_strip`).
-/

namespace CardLogic.Text

variable {α : Type} [HasCode α]

theorem stripStart_append_of_blank {w : List α} (hw : allBlank w = true) (s : List α) :
    stripStart (w ++ s) = stripStart s := by
  have h : ∀ c ∈ w, isBlank c = true := List.all_eq_true.mp hw
  exact List.dropWhile_append_of_pos h

theorem stripStart_of_blank {w : List α} (hw : allBlank w = true) : stripStart w = [] := by
  have h := stripStart_append_of_blank hw []
  rwa [List.append_nil] at h

theorem stripStart_cons_of_not_blank {c : α} (hc : isBlank c = false) (s : List α) :
    stripStart (c :: s) = c :: s := by
  rw [stripStart, List.dropWhile_cons, hc]
  rfl

theorem allBlank_reverse {w : List α} (hw : allBlank w = true) : allBlank w.reverse = true := by
  rw [allBlank, List.all_reverse]
  exact hw

theorem stripEnd_append_of_blank {w : List α} (hw : allBlank w = true) (s : List α) :
    stripEnd (s ++ w) = stripEnd s := by
  have h := stripStart_append_of_blank (allBlank_reverse hw) s.reverse
  rw [stripStart, stripStart] at h
  rw [stripEnd, stripEnd, List.reverse_append, h]

theorem stripEnd_concat_of_not_blank {c : α} (hc : isBlank c = false) (s : List α) :
    stripEnd (s ++ [c]) = s ++ [c] := by
  have h := stripStart_cons_of_not_blank hc s.reverse
  rw [stripStart] at h
  rw [stripEnd, List.reverse_concat, h, List.reverse_cons, List.reverse_reverse]

theorem stripStart_append_blank (s : List α) {w : List α} (hw : allBlank w = true) :
    stripStart (s ++ w) = if stripStart s = [] then [] else stripStart s ++ w := by
  rw [stripStart, List.dropWhile_append]
  have h := stripStart_of_blank hw
  rw [stripStart] at h
  rw [h]
  by_cases hs : stripStart s = [] <;> simp_all [stripStart]

/-- Blanks put around a text are stripped again. -/
theorem strip_pad {w w' : List α} (hw : allBlank w = true) (hw' : allBlank w' = true)
    (s : List α) : strip (w ++ s ++ w') = strip s := by
  rw [strip, List.append_assoc, stripStart_append_of_blank hw, stripStart_append_blank s hw']
  by_cases hs : stripStart s = []
  · rw [if_pos hs, strip, hs]
  · rw [if_neg hs, stripEnd_append_of_blank hw', strip]

/-- A text is what is left of it with blanks around. -/
theorem exists_pad (s : List α) :
    ∃ w w', allBlank w = true ∧ allBlank w' = true ∧ s = w ++ strip s ++ w' := by
  have hblank (l : List α) : allBlank (l.takeWhile isBlank) = true := List.all_takeWhile
  refine ⟨s.takeWhile isBlank, ((stripStart s).reverse.takeWhile isBlank).reverse, hblank s,
    allBlank_reverse (hblank _), ?_⟩
  have hend : stripEnd (stripStart s) ++ ((stripStart s).reverse.takeWhile isBlank).reverse =
      stripStart s := by
    rw [stripEnd, ← List.reverse_append, List.takeWhile_append_dropWhile, List.reverse_reverse]
  rw [strip, List.append_assoc, hend, stripStart, List.takeWhile_append_dropWhile]

theorem strip_strip (s : List α) : strip (strip s) = strip s := by
  obtain ⟨w, w', hw, hw', hs⟩ := exists_pad s
  rw [← strip_pad hw hw' (strip s), ← hs]

/-- A text with a character that is not blank at each end keeps them. -/
theorem strip_of_ends {a b : α} (ha : isBlank a = false) (hb : isBlank b = false)
    (s : List α) : strip (a :: s ++ [b]) = a :: s ++ [b] := by
  rw [strip, List.cons_append, stripStart_cons_of_not_blank ha, ← List.cons_append,
    stripEnd_concat_of_not_blank hb]

/-- A text without blanks is not changed. -/
theorem strip_of_not_blank {s : List α} (h : ∀ c ∈ s, isBlank c = false) : strip s = s := by
  have hstart {t : List α} (ht : ∀ c ∈ t, isBlank c = false) : t.dropWhile isBlank = t := by
    cases t with
    | nil => rfl
    | cons c t => exact stripStart_cons_of_not_blank (ht c List.mem_cons_self) t
  have hreverse : ∀ c ∈ s.reverse, isBlank c = false := fun c hc => h c (List.mem_reverse.mp hc)
  rw [strip, stripStart, hstart h, stripEnd, hstart hreverse, List.reverse_reverse]

theorem mem_stripStart {c : α} {s : List α} (hc : isBlank c = false) (h : c ∈ s) :
    c ∈ stripStart s := by
  induction s with
  | nil => exact absurd h (by simp)
  | cons d s ih =>
    rw [stripStart, List.dropWhile_cons]
    by_cases hd : isBlank d = true
    · rw [if_pos hd]
      have hne : c ≠ d := by
        intro heq
        subst heq
        rw [hc] at hd
        exact absurd hd (by simp)
      exact ih ((List.mem_cons.mp h).resolve_left hne)
    · rw [if_neg hd]
      exact h

theorem mem_strip {c : α} {s : List α} (hc : isBlank c = false) (h : c ∈ s) :
    c ∈ strip s := by
  rw [strip, stripEnd, List.mem_reverse]
  refine mem_stripStart (s := (stripStart s).reverse) hc ?_
  rw [List.mem_reverse]
  exact mem_stripStart hc h

end CardLogic.Text
