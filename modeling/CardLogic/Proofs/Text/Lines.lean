import CardLogic.Text.Lines

/-!
Cutting undoes joining.

`pieces_joinPieces` is the direction that `joinPieces_pieces` leaves open: pieces
without the cutting character are found again.  `lines_flatMap_append` is the same for
lines that each end in a line feed, with any text behind them.
-/

namespace CardLogic.Text

variable {α : Type}

/-! ## Pieces -/

section Pieces

variable [DecidableEq α]

theorem pieces_of_not_mem {d : α} {l : List α} (h : d ∉ l) : pieces d l = [l] := by
  induction l with
  | nil => rfl
  | cons c l ih =>
    have hc : ¬ c = d := fun e => h (e ▸ List.mem_cons_self)
    have hl : d ∉ l := fun e => h (List.mem_cons_of_mem c e)
    rw [pieces, if_neg hc, ih hl, consFirst]

theorem pieces_append {d : α} {l : List α} (h : d ∉ l) (s : List α) :
    pieces d (l ++ d :: s) = l :: pieces d s := by
  induction l with
  | nil => rw [List.nil_append, pieces, if_pos rfl]
  | cons c l ih =>
    have hc : ¬ c = d := fun e => h (e ▸ List.mem_cons_self)
    have hl : d ∉ l := fun e => h (List.mem_cons_of_mem c e)
    rw [List.cons_append, pieces, if_neg hc, ih hl, consFirst]

/-- What is put behind a text ends its last piece. -/
theorem exists_pieces_append {d : α} {l : List α} (h : d ∉ l) (s : List α) :
    ∃ before last, pieces d (s ++ l) = before ++ [last ++ l] := by
  induction s with
  | nil => exact ⟨[], [], pieces_of_not_mem h⟩
  | cons c s ih =>
    obtain ⟨before, last, hpieces⟩ := ih
    rw [List.cons_append, pieces, hpieces]
    by_cases hc : c = d
    · rw [if_pos hc]
      exact ⟨[] :: before, last, rfl⟩
    · rw [if_neg hc]
      cases before with
      | nil => exact ⟨[], c :: last, rfl⟩
      | cons first before => exact ⟨(c :: first) :: before, last, rfl⟩

theorem not_mem_of_mem_pieces {d : α} {s l : List α} (h : l ∈ pieces d s) : d ∉ l := by
  induction s generalizing l with
  | nil =>
    rw [pieces, List.mem_singleton] at h
    simp [h]
  | cons c s ih =>
    rw [pieces] at h
    by_cases hc : c = d
    · rw [if_pos hc] at h
      rcases List.mem_cons.mp h with rfl | h
      · simp
      · exact ih h
    · rw [if_neg hc] at h
      cases hp : pieces d s with
      | nil => exact absurd hp (pieces_ne_nil d s)
      | cons first rest =>
        rw [hp, consFirst] at h
        rw [hp] at ih
        rcases List.mem_cons.mp h with rfl | h
        · intro hd
          rcases List.mem_cons.mp hd with hd | hd
          · exact hc hd.symm
          · exact ih List.mem_cons_self hd
        · exact ih (List.mem_cons_of_mem first h)

/-- Pieces without the character between them are found again. -/
theorem pieces_joinPieces {d : α} {ls : List (List α)} (hne : ls ≠ [])
    (h : ∀ l ∈ ls, d ∉ l) : pieces d (joinPieces d ls) = ls := by
  induction ls with
  | nil => exact absurd rfl hne
  | cons l ls ih =>
    have hl : d ∉ l := h l List.mem_cons_self
    cases ls with
    | nil => exact pieces_of_not_mem hl
    | cons m ms =>
      rw [joinPieces, pieces_append hl, ih (by simp) fun x hx => h x (List.mem_cons_of_mem l hx)]
      simp

end Pieces

theorem joinPieces_cons (d : α) (l : List α) {ls : List (List α)} (hne : ls ≠ []) :
    joinPieces d (l :: ls) = l ++ d :: joinPieces d ls := by
  cases ls with
  | nil => exact absurd rfl hne
  | cons m ms => rw [joinPieces]; simp

theorem joinPieces_concat_nil (d : α) {ls : List (List α)} (hne : ls ≠ []) :
    joinPieces d (ls ++ [[]]) = joinPieces d ls ++ [d] := by
  induction ls with
  | nil => exact absurd rfl hne
  | cons l ls ih =>
    cases ls with
    | nil => simp [joinPieces]
    | cons m ms =>
      rw [List.cons_append, joinPieces_cons d l (by simp), ih (by simp),
        joinPieces_cons d l (by simp)]
      simp

/-! ## Lines -/

section Boundaries

variable [HasCode α]

/-- No character ends a line. -/
def OneLine (l : List α) : Prop := ∀ c ∈ l, isBoundary c = false

instance (l : List α) : Decidable (OneLine l) :=
  List.decidableBAll (fun c => isBoundary c = false) l

theorem OneLine.tail {c : α} {l : List α} (h : OneLine (c :: l)) : OneLine l :=
  fun d hd => h d (List.mem_cons_of_mem c hd)

theorem OneLine.append {l m : List α} (hl : OneLine l) (hm : OneLine m) : OneLine (l ++ m) := by
  intro c hc
  rcases List.mem_append.mp hc with hc | hc
  · exact hl c hc
  · exact hm c hc

theorem OneLine.not_mem {l : List α} (h : OneLine l) {c : α} (hc : isBoundary c = true) :
    c ∉ l := by
  intro hmem
  rw [h c hmem] at hc
  exact absurd hc (by simp)

theorem startsPair_of_not_boundary {c : α} (hc : isBoundary c = false) (s : List α) :
    startsPair c s = false := by
  have hcode : (code c == 0x0D) = false := by
    cases h : code c == 0x0D with
    | false => rfl
    | true => exact absurd hc (by simp [isBoundary, beq_iff_eq.mp h])
  rw [startsPair, hcode, Bool.false_and]

theorem lines_cons_of_not_boundary {c : α} (hc : isBoundary c = false) (s : List α) :
    lines (c :: s) = consFirst c (lines s) := by
  rw [lines, startsPair_of_not_boundary hc, hc]
  rfl

theorem lines_lineFeed {c : α} (hc : code c = 0x0A) (s : List α) :
    lines (c :: s) = [] :: lines s := by
  have hpair : startsPair c s = false := by simp [startsPair, hc]
  have hboundary : isBoundary c = true := by simp [isBoundary, hc]
  rw [lines, hpair, hboundary]
  rfl

/-- What ends a line closes the line before it, alone or with the character after it. -/
theorem lines_boundary {c : α} (hc : isBoundary c = true) (s : List α) :
    ∃ ls, lines (c :: s) = [] :: ls := by
  rw [lines]
  by_cases hpair : startsPair c s = true
  · rw [if_pos hpair]
    cases s with
    | nil => exact absurd hpair (by simp [startsPair])
    | cons d s =>
      have hd : code d = 0x0A := by
        simp only [startsPair, List.head?_cons, Option.any_some, Bool.and_eq_true,
          beq_iff_eq] at hpair
        exact hpair.2
      exact ⟨lines s, lines_lineFeed hd s⟩
  · rw [if_neg hpair, if_pos hc]
    exact ⟨lines s, rfl⟩

/-- A line that ends in a line feed is the first line of the text. -/
theorem lines_append {l : List α} (hl : OneLine l) {c : α} (hc : code c = 0x0A) (s : List α) :
    lines (l ++ c :: s) = l :: lines s := by
  induction l with
  | nil => exact lines_lineFeed hc s
  | cons d l ih =>
    rw [List.cons_append, lines_cons_of_not_boundary (hl d List.mem_cons_self), ih hl.tail,
      consFirst]

/-- A line is the first line of a text whatever ends it there. -/
theorem lines_first {l s : List α} (hl : OneLine l) (hne : l ≠ [])
    (hs : ∀ c ∈ s.head?, isBoundary c = true) : ∃ ls, lines (l ++ s) = l :: ls := by
  induction l with
  | nil => exact absurd rfl hne
  | cons c l ih =>
    rw [List.cons_append, lines_cons_of_not_boundary (hl c List.mem_cons_self)]
    cases l with
    | cons d l =>
      obtain ⟨ls, h⟩ := ih hl.tail (by simp)
      exact ⟨ls, by rw [h, consFirst]⟩
    | nil =>
      cases s with
      | nil => exact ⟨[], rfl⟩
      | cons b s =>
        obtain ⟨ls, h⟩ := lines_boundary (hs b (by simp)) s
        exact ⟨ls, by rw [List.nil_append, h, consFirst]⟩

/-- No line of a text holds what ends lines. -/
theorem oneLine_of_mem_lines {s l : List α} (h : l ∈ lines s) : OneLine l := by
  have hnil : OneLine ([] : List α) := fun c hc => absurd hc (by simp)
  induction s generalizing l with
  | nil => exact absurd h (by simp [lines])
  | cons c s ih =>
    rw [lines] at h
    by_cases hpair : startsPair c s = true
    · rw [if_pos hpair] at h
      exact ih h
    rw [if_neg hpair] at h
    by_cases hc : isBoundary c = true
    · rw [if_pos hc] at h
      rcases List.mem_cons.mp h with rfl | h
      · exact hnil
      · exact ih h
    rw [if_neg hc] at h
    have hc' : isBoundary c = false := by simpa using hc
    cases hlines : lines s with
    | nil =>
      rw [hlines, consFirst, List.mem_singleton] at h
      subst h
      intro d hd
      rw [List.mem_singleton.mp hd]
      exact hc'
    | cons first rest =>
      rw [hlines, consFirst] at h
      rcases List.mem_cons.mp h with rfl | h
      · intro d hd
        rcases List.mem_cons.mp hd with rfl | hd
        · exact hc'
        · exact ih (hlines ▸ List.mem_cons_self) d hd
      · exact ih (hlines ▸ List.mem_cons_of_mem first h)

theorem lines_flatMap_append {ls : List (List α)} (h : ∀ l ∈ ls, OneLine l) {c : α}
    (hc : code c = 0x0A) (s : List α) :
    lines (ls.flatMap (· ++ [c]) ++ s) = ls ++ lines s := by
  induction ls with
  | nil => rfl
  | cons l ls ih =>
    have hl : OneLine l := h l List.mem_cons_self
    have hrest := ih fun x hx => h x (List.mem_cons_of_mem l hx)
    rw [List.flatMap_cons, List.append_assoc, List.append_assoc, List.singleton_append,
      lines_append hl hc, hrest, List.cons_append]

theorem lines_flatMap {ls : List (List α)} (h : ∀ l ∈ ls, OneLine l) {c : α}
    (hc : code c = 0x0A) : lines (ls.flatMap (· ++ [c])) = ls := by
  have hall := lines_flatMap_append h hc []
  rwa [List.append_nil, lines, List.append_nil] at hall

end Boundaries

end CardLogic.Text
