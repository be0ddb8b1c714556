import CardLogic.Fact.Reader

/-!
Where the terms of a fact come from.

Reading a fact takes parts of a text and leaves out backslashes.  It puts in nothing but line
feeds, for these are written as two characters (`mem_or_lineFeed_of_read?`).
-/

namespace CardLogic

theorem Text.mem_of_mem_strip {c : CodePoint} {s : Text} (h : c ∈ strip s) : c ∈ s := by
  unfold strip stripEnd stripStart at h
  rw [List.mem_reverse] at h
  exact (List.dropWhile_subset _) (List.mem_reverse.mp ((List.dropWhile_subset _) h))

namespace Literal

open Text

variable {c : CodePoint} {s : Text}

theorem mem_of_mem_cutAtCommas {m : Scan} {piece : Text} (h : piece ∈ cutAtCommas m s)
    (hc : c ∈ piece) : c ∈ s := by
  induction s generalizing m piece with
  | nil =>
    rw [cutAtCommas, List.mem_singleton] at h
    exact h ▸ hc
  | cons d s ih =>
    rw [cutAtCommas] at h
    by_cases hcut : m = .outside ∧ d = ','
    · rw [if_pos hcut] at h
      rcases List.mem_cons.mp h with rfl | h
      · exact absurd hc (by simp)
      · exact List.mem_cons_of_mem d (ih h hc)
    · rw [if_neg hcut] at h
      cases hrest : cutAtCommas (m.next d) s with
      | nil =>
        rw [hrest, consFirst, List.mem_singleton] at h
        rw [h, List.mem_singleton] at hc
        rw [hc]
        exact List.mem_cons_self
      | cons first rest =>
        rw [hrest, consFirst] at h
        rcases List.mem_cons.mp h with rfl | h
        · rcases List.mem_cons.mp hc with rfl | hc
          · exact List.mem_cons_self
          · exact List.mem_cons_of_mem d (ih (hrest ▸ List.mem_cons_self) hc)
        · exact List.mem_cons_of_mem d (ih (hrest ▸ List.mem_cons_of_mem first h) hc)

theorem mem_of_mem_splitArgs {arg : Text} (h : arg ∈ splitArgs s) (hc : c ∈ arg) :
    c ∈ s := by
  unfold splitArgs at h
  dsimp only at h
  split at h
  · exact absurd h (by simp)
  · obtain ⟨piece, hpiece, rfl⟩ := List.mem_map.mp h
    exact mem_of_mem_cutAtCommas hpiece (mem_of_mem_strip hc)

theorem mem_or_lineFeed_of_unescape (h : c ∈ unescape s) : c ∈ s ∨ c = '\n' := by
  induction s using unescape.induct with
  | case1 => exact absurd h (by simp [unescape])
  | case2 d s ih =>
    rw [unescape] at h
    rcases List.mem_cons.mp h with heq | h
    · by_cases hn : d = 'n'
      · rw [if_pos hn] at heq
        exact Or.inr heq
      · rw [if_neg hn] at heq
        exact Or.inl (by simp [heq])
    · exact (ih h).imp_left fun hmem => by simp [hmem]
  | case3 d s hpair ih =>
    rw [unescape] at h
    · rcases List.mem_cons.mp h with rfl | h
      · exact Or.inl List.mem_cons_self
      · exact (ih h).imp_left (List.mem_cons_of_mem d)
    · exact hpair

theorem mem_of_body? {inner : Text} (h : body? s = some inner) (hc : c ∈ inner) : c ∈ s := by
  unfold body? at h
  split at h
  · next rest =>
    split at h
    · cases h
      exact List.mem_cons_of_mem _ ((List.dropLast_sublist rest).subset hc)
    · exact absurd h (by simp)
  · exact absurd h (by simp)

theorem mem_or_lineFeed_of_unquote (h : c ∈ unquote s) : c ∈ s ∨ c = '\n' := by
  unfold unquote at h
  dsimp only at h
  cases hbody : body? (strip s) with
  | none =>
    rw [hbody] at h
    exact Or.inl (mem_of_mem_strip h)
  | some inner =>
    rw [hbody] at h
    exact (mem_or_lineFeed_of_unescape h).imp_left
      fun hc => mem_of_mem_strip (mem_of_body? hbody hc)

end Literal

namespace Fact

open Text Literal

variable {c : CodePoint} {s : Text}

theorem eq_of_cutAtLast {d : CodePoint} {before behind : Text}
    (h : cutAtLast d s = some (before, behind)) : s = before ++ d :: behind := by
  induction s generalizing before with
  | nil => exact absurd h (by simp [cutAtLast])
  | cons e s ih =>
    rw [cutAtLast] at h
    cases hrest : cutAtLast d s with
    | some cut =>
      rw [hrest] at h
      cases h
      rw [ih hrest, List.cons_append]
    | none =>
      rw [hrest] at h
      dsimp only at h
      split at h
      · next heq =>
        cases h
        rw [heq, List.nil_append]
      · exact absurd h (by simp)

theorem mem_of_cutFact {name list : Text} (h : cutFact s = some (name, list)) (hc : c ∈ list) :
    c ∈ s := by
  unfold cutFact at h
  dsimp only at h
  split at h
  · next d rest hname hdrop =>
    split at h
    · cases hcut : cutAtLast (.char ')') rest with
      | none => rw [hcut] at h; exact absurd h (by simp)
      | some cut =>
        rw [hcut] at h
        dsimp only at h
        split at h
        · cases h
          have hrest : c ∈ rest := by
            rw [eq_of_cutAtLast hcut]
            exact List.mem_append_left _ hc
          have hdropped : c ∈ .char '(' :: rest := List.mem_cons_of_mem _ hrest
          rw [← hdrop] at hdropped
          exact (List.dropWhile_subset _) (List.mem_of_mem_drop hdropped)
        · exact absurd h (by simp)
    · exact absurd h (by simp)
  · exact absurd h (by simp)

theorem terms_of_ofTerms? {name : String} {terms : List Text} {f : Fact}
    (h : ofTerms? name terms = some f) : f.terms = terms := by
  unfold ofTerms? at h
  split at h <;> first | (cases h; rfl) | exact absurd h (by simp)

/-- Every character of a term of a fact was in the text it was read from, or is a line feed. -/
theorem mem_or_lineFeed_of_read? {f : Fact} (h : read? s = some f) {term : Text}
    (hterm : term ∈ f.terms) (hc : c ∈ term) : c ∈ s ∨ c = '\n' := by
  unfold read? at h
  cases hcut : cutFact s with
  | none => rw [hcut] at h; exact absurd h (by simp)
  | some cut =>
    obtain ⟨name, list⟩ := cut
    rw [hcut] at h
    dsimp only at h
    split at h
    · exact absurd h (by simp)
    · rw [terms_of_ofTerms? h] at hterm
      obtain ⟨arg, harg, rfl⟩ := List.mem_map.mp hterm
      exact (mem_or_lineFeed_of_unquote hc).imp_left fun hmem =>
        mem_of_cutFact hcut (mem_of_mem_splitArgs harg hmem)

end Fact

end CardLogic
