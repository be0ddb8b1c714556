import CardLogic.Proofs.Fact.Content
import CardLogic.Proofs.Solver.Output

/-!
Which facts about fields get through the solver's output as they are rendered.

A literal writes a line feed as two characters, but the other characters that end a line as they
are, and the output is cut into lines at all of them.  So rendered facts are read back
exactly when line feeds are all that breaks their texts (`derived_rendered_iff`).  No
reading of any output can give other texts (`onlyLineFeeds_of_mem_derived`), and a text with
another line end can even end the block of facts early (`rendered_value_ends_block`).
-/

namespace CardLogic.Solver

open Text Literal

/-- A fact about a field of a card whose key consists of key characters. -/
def Derivable : Fact → Prop
  | .field key _ _ => key ≠ [] ∧ ∀ c ∈ key, c.is isKeyChar = true
  | .fieldType key _ _ => key ≠ [] ∧ ∀ c ∈ key, c.is isKeyChar = true
  | _ => False

/-- Facts as they are rendered, each with a line feed behind it, and then a mark on its own line. -/
def renderedOutput (facts : List Fact) : Text :=
  facts.flatMap (fun f => f.render ++ [.char '\n']) ++ satisfiableMark

/-! ## What can be read at all -/

theorem mem_of_ofLines {ls before : List Text}
    (h : Verdict.ofLines ls = .satisfiable before) {l : Text} (hl : l ∈ before) : l ∈ ls := by
  induction ls generalizing before with
  | nil => exact absurd h (by simp [Verdict.ofLines])
  | cons first rest ih =>
    rw [Verdict.ofLines] at h
    split at h
    · cases h
      exact absurd hl (by simp)
    · split at h
      · exact absurd h (by simp)
      · cases hrest : Verdict.ofLines rest with
        | satisfiable before' =>
          rw [hrest, Verdict.after] at h
          cases h
          rcases List.mem_cons.mp hl with rfl | hl
          · exact List.mem_cons_self
          · exact List.mem_cons_of_mem first (ih hrest hl)
        | unsatisfiable => rw [hrest] at h; exact absurd h (by simp [Verdict.after])
        | unmarked => rw [hrest] at h; exact absurd h (by simp [Verdict.after])

/-- What is derived is what the lines before the mark say. -/
theorem derived_of_satisfiable {output : Text} {before : List Text}
    (h : Verdict.ofOutput output = .satisfiable before) :
    derived output = before.filterMap Derived.ofLine? := by
  have hlines : ∀ l ∈ before, OneLine l := fun l hl => oneLine_of_mem_lines (mem_of_ofLines h hl)
  unfold derived
  rw [h]
  exact derivedIn_joinPieces hlines

theorem mem_derived_iff {output : Text} {d : Derived} :
    d ∈ derived output ↔ ∃ before, Verdict.ofOutput output = .satisfiable before ∧
      ∃ l ∈ before, Derived.ofLine? l = some d := by
  constructor
  · intro hmem
    cases hverdict : Verdict.ofOutput output with
    | satisfiable before =>
      rw [derived_of_satisfiable hverdict] at hmem
      exact ⟨before, rfl, List.mem_filterMap.mp hmem⟩
    | unsatisfiable => exact absurd hmem (by simp [derived, hverdict, Verdict.block?])
    | unmarked => exact absurd hmem (by simp [derived, hverdict, Verdict.block?])
  · rintro ⟨before, hverdict, hline⟩
    rw [derived_of_satisfiable hverdict]
    exact List.mem_filterMap.mpr hline

/-- What is derived comes from single lines of the output. -/
theorem exists_line_of_mem_derived {output : Text} {d : Derived} (h : d ∈ derived output) :
    ∃ l ∈ lines output, Derived.ofLine? l = some d := by
  obtain ⟨before, hverdict, l, hl, hd⟩ := mem_derived_iff.mp h
  exact ⟨l, mem_of_ofLines hverdict hl, hd⟩

theorem terms_of_ofFact? {f : Fact} {d : Derived} (h : Derived.ofFact? f = some d) :
    f.terms = [d.cardKey, d.field, d.value] := by
  unfold Derived.ofFact? at h
  split at h
  · split at h <;> cases h
    rfl
  · split at h <;> cases h
    rfl
  · exact absurd h (by simp)

/-- Line feeds are all that breaks the texts of anything derived from any output. -/
theorem onlyLineFeeds_of_mem_derived {output : Text} {d : Derived} (h : d ∈ derived output) :
    ∀ text ∈ [d.cardKey, d.field, d.value], OnlyLineFeeds text := by
  obtain ⟨l, hl, hd⟩ := exists_line_of_mem_derived h
  obtain ⟨f, hf, hd⟩ := Option.bind_eq_some_iff.mp hd
  rw [← terms_of_ofFact? hd]
  intro text htext c hc hboundary
  rcases Fact.mem_or_lineFeed_of_read? hf htext hc with hmem | heq
  · rw [oneLine_of_mem_lines hl c hmem] at hboundary
    exact absurd hboundary (by simp)
  · exact heq

/-! ## Rendered facts -/

namespace PrintedField

/-- A field as its fact is rendered: a blank before each argument but the first, and a dot. -/
def plain (isKind : Bool) (d : Derived) : PrintedField :=
  ⟨isKind, d, ([], []), ([' '], []), ([' '], []), true⟩

variable {isKind : Bool} {d : Derived}

theorem line_plain : (plain isKind d).line = (plain isKind d).fact.render := by
  rw [Fact.render_eq]
  cases isKind <;>
    simp [plain, line, fact, args, ending, Fact.args, Fact.renderedArgs, Padded.text, quote]

theorem terms_plain : (plain isKind d).fact.terms = [d.cardKey, d.field, d.value] := by
  cases isKind <;> rfl

theorem ofFact?_plain (hkey : isPlainKey d.cardKey = true) :
    Derived.ofFact? (plain isKind d).fact = some d := by
  cases isKind <;> simp [plain, fact, Derived.ofFact?, hkey]

theorem wellFormed_plain (hne : d.cardKey ≠ [])
    (hchars : ∀ c ∈ d.cardKey, c.is isKeyChar = true)
    (hterms : ∀ term ∈ (plain isKind d).fact.terms, OnlyLineFeeds term) :
    (plain isKind d).WellFormed := by
  rw [terms_plain] at hterms
  have hnone : IsGap [] := by decide
  have hblank : IsGap " " := by decide
  exact ⟨hne, hchars, hterms d.field (by simp), hterms d.value (by simp), ⟨hnone, hnone⟩,
    ⟨hblank, hnone⟩, ⟨hblank, hnone⟩⟩

end PrintedField

variable {f : Fact} {facts : List Fact}

theorem Derivable.exists_plain (h : Derivable f) :
    ∃ isKind d, f = (PrintedField.plain isKind d).fact ∧
    d.cardKey ≠ [] ∧ ∀ c ∈ d.cardKey, c.is isKeyChar = true := by
  cases f with
  | field key name value => exact ⟨false, ⟨key, name, value⟩, rfl, h⟩
  | fieldType key name kind => exact ⟨true, ⟨key, name, kind⟩, rfl, h⟩
  | _ => exact absurd h (by simp [Derivable])

theorem Derivable.exists_ofFact? (h : Derivable f) : ∃ d, Derived.ofFact? f = some d := by
  obtain ⟨isKind, d, rfl, hne, hchars⟩ := h.exists_plain
  exact ⟨d, PrintedField.ofFact?_plain (isPlainKey_of_key hne hchars)⟩

/-- Where line feeds are all that breaks its texts, a rendered fact is a line that is read as the
fact. -/
theorem Derivable.line (h : Derivable f) (hterms : ∀ term ∈ f.terms, OnlyLineFeeds term) :
    OneLine f.render ∧ ¬ OutputLine.IsMark f.render ∧
      Derived.ofLine? f.render = Derived.ofFact? f := by
  obtain ⟨isKind, d, rfl, hne, hchars⟩ := h.exists_plain
  have hwell := PrintedField.wellFormed_plain hne hchars hterms
  have hread : Derived.ofLine? (PrintedField.plain isKind d).line = some d := hwell.ofLine?_line
  rw [PrintedField.ofFact?_plain (isPlainKey_of_key hne hchars), ← PrintedField.line_plain]
  exact ⟨hwell.oneLine, PrintedField.not_isMark_line _, hread⟩

theorem derived_of_lines {ls : List Text} (hone : ∀ l ∈ ls, OneLine l)
    (hmark : ∀ l ∈ ls, ¬ OutputLine.IsMark l) :
    derived (ls.flatMap (· ++ [.char '\n']) ++ satisfiableMark) =
      ls.filterMap Derived.ofLine? := by
  have hlast : lines satisfiableMark = [satisfiableMark] := by decide
  have hstrip : strip satisfiableMark = satisfiableMark := by decide
  rw [derived, Verdict.ofOutput, lines_flatMap_append hone rfl, hlast,
    Verdict.ofLines_satisfiable hmark hstrip, Verdict.block?]
  exact derivedIn_joinPieces hone

/-- Facts about fields are read back from the output they are rendered in, all of them and in
their order, exactly when line feeds are all that breaks their texts. -/
theorem derived_rendered_iff (hfacts : ∀ f ∈ facts, Derivable f) :
    derived (renderedOutput facts) = facts.filterMap Derived.ofFact? ↔
      ∀ f ∈ facts, ∀ term ∈ f.terms, OnlyLineFeeds term := by
  constructor
  · intro hread f hf
    obtain ⟨d, hd⟩ := (hfacts f hf).exists_ofFact?
    have hmem : d ∈ derived (renderedOutput facts) := by
      rw [hread]
      exact List.mem_filterMap.mpr ⟨f, hf, hd⟩
    rw [terms_of_ofFact? hd]
    exact onlyLineFeeds_of_mem_derived hmem
  · intro hterms
    have hline := fun f hf => (hfacts f hf).line (hterms f hf)
    have houtput : renderedOutput facts =
        (facts.map Fact.render).flatMap (· ++ [.char '\n']) ++ satisfiableMark := by
      rw [renderedOutput, List.flatMap_map]
    rw [houtput, derived_of_lines, List.filterMap_map]
    · exact List.filterMap_congr fun f hf => (hline f hf).2.2
    · intro l hl
      obtain ⟨f, hf, rfl⟩ := List.mem_map.mp hl
      exact (hline f hf).1
    · intro l hl
      obtain ⟨f, hf, rfl⟩ := List.mem_map.mp hl
      exact (hline f hf).2.1

theorem derived_rendered_words :
    let facts : List Fact :=
      [.field "c1" "n" "x\nSATISFIABLE\n", .fieldType "c_2" "m" "UNSATISFIABLE"]
    (∀ f ∈ facts, Derivable f) ∧ (∀ f ∈ facts, ∀ term ∈ f.terms, OnlyLineFeeds term) ∧
      derived (renderedOutput facts) =
        [⟨"c1", "n", "x\nSATISFIABLE\n"⟩, ⟨"c_2", "m", "UNSATISFIABLE"⟩] := by
  intro facts
  have hfacts : ∀ f ∈ facts, Derivable f := by
    intro f hf
    simp only [facts, List.mem_cons, List.not_mem_nil, or_false] at hf
    rcases hf with rfl | rfl
    · exact ⟨by decide, List.all_eq_true.mp (by decide)⟩
    · exact ⟨by decide, List.all_eq_true.mp (by decide)⟩
  have hterms : ∀ f ∈ facts, ∀ term ∈ f.terms, OnlyLineFeeds term := by decide
  exact ⟨hfacts, hterms, (derived_rendered_iff hfacts).mpr hterms⟩

/-- A value with a line separator in it can be read as a mark, and then the facts behind it
are lost with it. -/
theorem rendered_value_ends_block :
    let facts : List Fact :=
      [.field "c1" "n" "x", .field "c1" "m" "a\u2028SATISFIABLE\u2028b", .field "c2" "n" "y"]
    (∀ f ∈ facts, Derivable f) ∧ derived (renderedOutput facts) = [⟨"c1", "n", "x"⟩] ∧
      derived (renderedOutput facts) ≠ facts.filterMap Derived.ofFact? := by
  intro facts
  have hfacts : ∀ f ∈ facts, Derivable f := by
    intro f hf
    simp only [facts, List.mem_cons, List.not_mem_nil, or_false] at hf
    rcases hf with rfl | rfl | rfl
    · exact ⟨by decide, List.all_eq_true.mp (by decide)⟩
    · exact ⟨by decide, List.all_eq_true.mp (by decide)⟩
    · exact ⟨by decide, List.all_eq_true.mp (by decide)⟩
  have hread : derived (renderedOutput facts) = [⟨"c1", "n", "x"⟩] := by decide +kernel
  refine ⟨hfacts, hread, ?_⟩
  rw [hread]
  decide

end CardLogic.Solver
