import CardLogic.Proofs.Fact.NormalForm
import CardLogic.Proofs.Solver.Rendered

/-!
The card keys of derived fields.

A key is a plain text, but a line feed may stand behind it.  No line of an output holds one, so it
can only come from a key that is written as a literal and ends in a line feed there
(`isPlain_iff_of_ofLine?`).  Hence all keys that are derived are plain just if no such line before
the mark is read (`derived_keys`); in particular keys that are written as they are come out plain.
-/

namespace CardLogic

namespace Literal

open Text

variable {s : Text}

theorem unescape_eq_nil_iff : unescape s = [] ↔ s = [] := by
  fun_cases unescape s <;> simp

/-- A text read from a literal ends in a line feed only if one is written at the literal's end. -/
theorem escaped_of_lineFeed (hline : .char '\n' ∉ s) (h : [.char '\n'] <:+ unescape s) :
    [.char '\\', .char 'n'] <:+ s := by
  induction s using unescape.induct with
  | case1 => exact absurd h (by simp [unescape])
  | case2 c s ih =>
    rw [unescape] at h
    rcases List.suffix_cons_iff.mp h with heq | h
    · obtain ⟨hc, hs⟩ := List.cons.inj heq
      obtain rfl := unescape_eq_nil_iff.mp hs.symm
      by_cases hn : c = 'n'
      · subst hn
        exact List.suffix_rfl
      · rw [if_neg hn] at hc
        subst hc
        exact absurd (by simp) hline
    · exact (ih (fun hmem => hline (by simp [hmem])) h).trans ⟨['\\', c], rfl⟩
  | case3 c s hpair ih =>
    rw [unescape] at h
    · rcases List.suffix_cons_iff.mp h with heq | h
      · obtain ⟨rfl, -⟩ := List.cons.inj heq
        exact absurd List.mem_cons_self hline
      · exact (ih (fun hmem => hline (by simp [hmem])) h).trans (List.suffix_cons c s)
    · exact hpair

/-- An escaped line feed at the end is read as one, if the backslash is not escaped itself. -/
theorem lineFeed_of_escaped (hback : .char '\\' ∉ unescape s) (h : [.char '\\', .char 'n'] <:+ s) :
    [.char '\n'] <:+ unescape s := by
  induction s using unescape.induct with
  | case1 => exact absurd h (by simp)
  | case2 c s ih =>
    rw [unescape] at hback ⊢
    rcases List.suffix_cons_iff.mp h with heq | h
    · cases heq
      exact List.suffix_rfl
    · rcases List.suffix_cons_iff.mp h with heq | h
      · cases heq
        exact absurd (by simp) hback
      · exact (ih (fun hmem => hback (List.mem_cons_of_mem _ hmem)) h).trans (List.suffix_cons _ _)
  | case3 c s hpair ih =>
    rcases List.suffix_cons_iff.mp h with heq | h
    · cases heq
      exact absurd rfl (hpair 'n' [] rfl)
    · rw [unescape] at hback ⊢
      · exact (ih (fun hmem => hback (List.mem_cons_of_mem _ hmem)) h).trans (List.suffix_cons _ _)
      · exact hpair
      · exact hpair

theorem eq_of_body? {inner : Text} (h : body? s = some inner) :
    s = .char '"' :: inner ++ [.char '"'] := by
  unfold body? at h
  split at h
  · next rest =>
    split at h
    · next hlast =>
      cases h
      rw [List.cons_append, List.dropLast_append_getLast? _ hlast]
    · exact absurd h (by simp)
  · exact absurd h (by simp)

/-- The end of a literal whose text ends in a line feed. -/
def lineFeedEnd : Text := ['\\', 'n', '"']

theorem lineFeedEnd_suffix_iff :
    lineFeedEnd <:+ .char '"' :: s ++ [.char '"'] ↔ [.char '\\', .char 'n'] <:+ s := by
  constructor
  · rintro ⟨before, hbefore⟩
    have hcut : before ++ [.char '\\', .char 'n'] ++ [.char '"'] =
        CodePoint.char '"' :: s ++ [.char '"'] := by
      rw [List.append_assoc]
      exact hbefore
    have hsuffix : [.char '\\', .char 'n'] <:+ .char '"' :: s :=
      ⟨before, List.append_cancel_right hcut⟩
    rcases List.suffix_cons_iff.mp hsuffix with heq | h
    · exact absurd heq (by simp)
    · exact h
  · rintro ⟨before, rfl⟩
    exact ⟨.char '"' :: before, by simp [lineFeedEnd]⟩

/-- An argument without blanks around it, in a line, means a text with a line feed at the end just
if it is written as a literal that ends in one; texts with quotes or backslashes apart. -/
theorem lineFeed_suffix_unquote_iff (hstrip : strip s = s) (hline : .char '\n' ∉ s)
    (hquote : .char '"' ∉ unquote s) (hback : .char '\\' ∉ unquote s) :
    [.char '\n'] <:+ unquote s ↔ lineFeedEnd <:+ s := by
  unfold unquote at hquote hback ⊢
  rw [hstrip] at hquote hback ⊢
  dsimp only at hquote hback ⊢
  cases hbody : body? s with
  | none =>
    rw [hbody] at hquote
    refine iff_of_false (fun h => ?_) fun h => ?_
    · exact hline (h.subset List.mem_cons_self)
    · exact hquote (h.subset (by simp [lineFeedEnd]))
  | some inner =>
    rw [hbody] at hback
    obtain rfl := eq_of_body? hbody
    rw [lineFeedEnd_suffix_iff]
    have hinner : .char '\n' ∉ inner := fun hmem => hline (by simp [hmem])
    exact ⟨escaped_of_lineFeed hinner, lineFeed_of_escaped hback⟩

end Literal

namespace Solver

open Text Literal

/-- A text of ASCII letters, digits and underscores, and at least one of them. -/
def IsPlain (key : Text) : Prop :=
  key ≠ [] ∧ ∀ c ∈ key, ∃ ch : Char, c = .char ch ∧ (ch.isAlphanum = true ∨ ch = '_')

variable {key l : Text} {d : Derived}

theorem isKeyChar_iff {c : Char} : isKeyChar c = true ↔ c.isAlphanum = true ∨ c = '_' := by
  have hupper : c.isUpper = (decide ('A' ≤ c) && decide (c ≤ 'Z')) := Bool.decide_and _ _
  have hkey : isKeyChar c = (c.isUpper || c.isLower || c.isDigit || decide (c = '_')) := by
    rw [hupper]
    rfl
  rw [hkey, Bool.or_eq_true, decide_eq_true_eq]
  rfl

theorem is_isKeyChar_iff {c : CodePoint} :
    c.is isKeyChar = true ↔ ∃ ch : Char, c = .char ch ∧ (ch.isAlphanum = true ∨ ch = '_') := by
  cases c with
  | char ch => simp [CodePoint.is, isKeyChar_iff]
  | half n => simp [CodePoint.is]

-- Stated over the list, so that deciding it never runs through all characters.
instance (key : Text) : Decidable (IsPlain key) :=
  decidable_of_iff (key ≠ [] ∧ (key.all fun c => c.is isKeyChar) = true)
    (and_congr_right fun _ => by simp only [List.all_eq_true, is_isKeyChar_iff])

theorem IsPlain.not_mem (h : IsPlain key) {c : CodePoint} (hc : c.is isKeyChar = false) :
    c ∉ key := by
  intro hmem
  rw [is_isKeyChar_iff.mpr (h.2 c hmem)] at hc
  exact absurd hc (by simp)

/-- What counts as a key is a plain text, with or without a line feed behind it. -/
theorem exists_plain_of_isPlainKey (h : isPlainKey key = true) :
    ∃ plain, IsPlain plain ∧ (key = plain ∨ key = plain ++ [.char '\n']) := by
  have hplain : ∀ body : Text,
      (decide (body ≠ []) && body.all (·.is isKeyChar)) = true → IsPlain body := by
    intro body hbody
    obtain ⟨hne, hchars⟩ := Bool.and_eq_true_iff.mp hbody
    exact ⟨by simpa using hne, fun c hc => is_isKeyChar_iff.mp (List.all_eq_true.mp hchars c hc)⟩
  unfold isPlainKey at h
  by_cases hlast : key.getLast? = some (.char '\n')
  · rw [if_pos hlast] at h
    exact ⟨key.dropLast, hplain _ h, Or.inr (List.dropLast_append_getLast? _ hlast).symm⟩
  · rw [if_neg hlast] at h
    exact ⟨key, hplain _ h, Or.inl rfl⟩

/-- The key as the line of a fact writes it. -/
def writtenKey? (line : Text) : Option (Text) :=
  (Fact.writtenArgs line).head?

theorem isPlainKey_of_ofFact? {f : Fact} (h : Derived.ofFact? f = some d) :
    isPlainKey d.cardKey = true := by
  unfold Derived.ofFact? at h
  split at h
  case h_3 => exact absurd h (by simp)
  all_goals
    split at h
    · next hplain =>
      cases h
      exact hplain
    · exact absurd h (by simp)

/-- What is derived from a line has the key that is written there. -/
theorem exists_writtenKey (h : Derived.ofLine? l = some d) :
    ∃ written, writtenKey? l = some written ∧ strip written = written ∧
      d.cardKey = unquote written ∧ (∀ c ∈ written, c ∈ l) ∧
      isPlainKey d.cardKey = true := by
  obtain ⟨f, hf, hd⟩ := Option.bind_eq_some_iff.mp h
  obtain ⟨ls, -, hargs, -, hterms⟩ := Fact.pieces_of_read hf
  rw [terms_of_ofFact? hd] at hterms
  cases hwritten : Fact.writtenArgs l with
  | nil =>
    rw [hwritten] at hterms
    exact absurd hterms (by simp)
  | cons written rest =>
    rw [hwritten, List.map_cons] at hterms
    have hmem : written ∈ Fact.writtenArgs l := by
      rw [hwritten]
      exact List.mem_cons_self
    refine ⟨written, by rw [writtenKey?, hwritten]; rfl, ?_, (List.cons.inj hterms).1,
      fun c hc => ?_, isPlainKey_of_ofFact? hd⟩
    · rw [hargs] at hmem
      obtain ⟨piece, -, rfl⟩ := List.mem_map.mp hmem
      exact strip_strip piece
    · exact Fact.mem_of_mem_writtenArgs hmem hc

/-- The key that is derived from a line is plain, unless it is written as a literal that ends in a
line feed. -/
theorem isPlain_iff_of_ofLine? (hline : OneLine l) (h : Derived.ofLine? l = some d)
    {written : Text} (hwritten : writtenKey? l = some written) :
    IsPlain d.cardKey ↔ ¬ lineFeedEnd <:+ written := by
  obtain ⟨written', hwritten', hstrip, hkey, hmem, hplainKey⟩ := exists_writtenKey h
  cases hwritten.symm.trans hwritten'
  obtain ⟨plain, hplain, hcase⟩ := exists_plain_of_isPlainKey hplainKey
  have hchars : ∀ c, c ∈ unquote written → c.is isKeyChar = false → c = '\n' := by
    intro c hc hnot
    rw [← hkey] at hc
    rcases hcase with heq | heq
    · rw [heq] at hc
      exact absurd hc (hplain.not_mem hnot)
    · rw [heq] at hc
      exact (List.mem_append.mp hc).elim (fun hc => absurd hc (hplain.not_mem hnot))
        List.mem_singleton.mp
  rw [← lineFeed_suffix_unquote_iff hstrip (fun hc => hline.not_mem (by decide) (hmem _ hc))
    (fun hc => absurd (hchars _ hc (by decide)) (by decide))
    (fun hc => absurd (hchars _ hc (by decide)) (by decide)), ← hkey]
  constructor
  · intro hkeyPlain hsuffix
    exact hkeyPlain.not_mem (by decide) (hsuffix.subset List.mem_cons_self)
  · intro hno
    rcases hcase with heq | heq
    · exact heq ▸ hplain
    · exact absurd ⟨plain, heq.symm⟩ hno

/-- Every key that is derived is plain, but for a line feed that may stand behind it.  All of them
are plain just if nothing is read from a line before the mark that writes its key as a literal with
a line feed at the end. -/
theorem derived_keys (output : Text) :
    (∀ d ∈ derived output, ∃ plain, IsPlain plain ∧
      (d.cardKey = plain ∨ d.cardKey = plain ++ [.char '\n'])) ∧
    ((∀ d ∈ derived output, IsPlain d.cardKey) ↔
      ∀ before, Verdict.ofOutput output = .satisfiable before → ∀ l ∈ before, ∀ written,
        writtenKey? l = some written → lineFeedEnd <:+ written → Derived.ofLine? l = none) := by
  refine ⟨fun d hd => ?_, fun hplain before hverdict l hl written hwritten hend => ?_,
    fun hnone d hd => ?_⟩
  · obtain ⟨before, -, l, -, hline⟩ := mem_derived_iff.mp hd
    obtain ⟨written, -, -, -, -, hkey⟩ := exists_writtenKey hline
    exact exists_plain_of_isPlainKey hkey
  · by_contra hsome
    obtain ⟨d, hd⟩ := Option.ne_none_iff_exists'.mp hsome
    have honeLine := oneLine_of_mem_lines (mem_of_ofLines hverdict hl)
    have hderived := mem_derived_iff.mpr ⟨before, hverdict, l, hl, hd⟩
    exact (isPlain_iff_of_ofLine? honeLine hd hwritten).mp (hplain d hderived) hend
  · obtain ⟨before, hverdict, l, hl, hline⟩ := mem_derived_iff.mp hd
    have honeLine := oneLine_of_mem_lines (mem_of_ofLines hverdict hl)
    obtain ⟨written, hwritten, -⟩ := exists_writtenKey hline
    refine (isPlain_iff_of_ofLine? honeLine hline hwritten).mpr fun hend => ?_
    rw [hnone before hverdict l hl written hwritten hend] at hline
    exact absurd hline (by simp)

/-- A key that is written as a literal can bring a line feed along. -/
theorem derived_key_with_lineFeed :
    derived "field(\"a\\n\", \"n\", \"x\").\nSATISFIABLE\n" = [⟨"a\n", "n", "x"⟩] ∧
      ¬ IsPlain "a\n" := by
  decide

end Solver

end CardLogic
