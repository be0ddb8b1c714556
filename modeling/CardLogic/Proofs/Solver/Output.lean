import CardLogic.Proofs.Fact.Reading
import CardLogic.Solver.Output

/-!
Reading what the solver printed.

The solver's output is lines: derived fields, printed with any gaps around their
arguments and with or without a dot, remarks of any kind, and a line that says whether the
program is satisfiable.  `derived_written` says that exactly the printed fields are read,
in their order, whatever the remarks are and whatever stands behind the mark.

The output is cut into lines at every boundary, joined with line feeds up to the mark, and
cut at line feeds again.  Both cuts find the same lines because no line holds a boundary:
the one that a text may hold, the line feed, is written as two characters in a literal.
-/

namespace CardLogic.Solver

open Text Literal

/-! ## The lines of an output -/

/-- A derived field as the solver may print it. -/
structure PrintedField where
  /-- Whether it is printed as the kind of a field. -/
  isKind : Bool
  derived : Derived
  /-- What stands before and after each of the three arguments. -/
  keyGap : Text × Text
  fieldGap : Text × Text
  valueGap : Text × Text
  dot : Bool

namespace PrintedField

def fact (p : PrintedField) : Fact :=
  if p.isKind then .fieldType p.derived.cardKey p.derived.field p.derived.value
  else .field p.derived.cardKey p.derived.field p.derived.value

def args (p : PrintedField) : List Padded :=
  [⟨p.keyGap.1, p.derived.cardKey, p.keyGap.2⟩,
    ⟨p.fieldGap.1, quote p.derived.field, p.fieldGap.2⟩,
    ⟨p.valueGap.1, quote p.derived.value, p.valueGap.2⟩]

def ending (p : PrintedField) : Text := if p.dot then [.char '.'] else []

def line (p : PrintedField) : Text :=
  (p.fact.predicate : Text) ++ .char '(' :: joinPieces (.char ',') (p.args.map Padded.text) ++
    .char ')' :: p.ending

end PrintedField

/-- A text that no line boundary but the line feed is in. -/
def OnlyLineFeeds (s : Text) : Prop := ∀ c ∈ s, isBoundary c = true → c = '\n'

instance (s : Text) : Decidable (OnlyLineFeeds s) :=
  List.decidableBAll (fun c : CodePoint => isBoundary c = true → c = '\n') s

/-- Blanks that do not end the line. -/
def IsGap (s : Text) : Prop := allBlank s = true ∧ OneLine s

instance (s : Text) : Decidable (IsGap s) := inferInstanceAs (Decidable (_ ∧ _))

namespace PrintedField

/-- The key is a plain one, only line feeds break the texts, and there are only gaps around
the arguments. -/
structure WellFormed (p : PrintedField) : Prop where
  key_ne_nil : p.derived.cardKey ≠ []
  key_chars : ∀ c ∈ p.derived.cardKey, c.is isKeyChar = true
  field_lines : OnlyLineFeeds p.derived.field
  value_lines : OnlyLineFeeds p.derived.value
  keyGap : IsGap p.keyGap.1 ∧ IsGap p.keyGap.2
  fieldGap : IsGap p.fieldGap.1 ∧ IsGap p.fieldGap.2
  valueGap : IsGap p.valueGap.1 ∧ IsGap p.valueGap.2

end PrintedField

inductive OutputLine where
  | printed (p : PrintedField)
  /-- Anything that is neither a derived field nor a mark. -/
  | remark (line : Text)

namespace OutputLine

def text : OutputLine → Text
  | printed p => p.line
  | remark l => l

def derived? : OutputLine → Option Derived
  | printed p => some p.derived
  | remark _ => none

/-- A line that says whether the program is satisfiable. -/
def IsMark (l : Text) : Prop := strip l = satisfiableMark ∨ strip l = unsatisfiableMark

instance (l : Text) : Decidable (IsMark l) := inferInstanceAs (Decidable (_ ∨ _))

def WellFormed : OutputLine → Prop
  | printed p => p.WellFormed
  | remark l => OneLine l ∧ Derived.ofLine? l = none ∧ ¬ IsMark l

end OutputLine

/-- Lines as a text, each with a line feed behind it. -/
def linesText (ls : List OutputLine) : Text :=
  (ls.map OutputLine.text).flatMap (· ++ [.char '\n'])

/-! ## Plain keys -/

theorem code_of_isKeyChar {c : CodePoint} (h : c.is isKeyChar = true) :
    (65 ≤ code c ∧ code c ≤ 90) ∨ (97 ≤ code c ∧ code c ≤ 122) ∨
      (48 ≤ code c ∧ code c ≤ 57) ∨ code c = 95 := by
  cases c with
  | half n => exact absurd h (by simp [CodePoint.is])
  | char c =>
    have h : isKeyChar c = true := h
    simp only [isKeyChar, Bool.or_eq_true, Bool.and_eq_true, decide_eq_true_eq] at h
    rcases h with ((⟨hl, hr⟩ | ⟨hl, hr⟩) | ⟨hl, hr⟩) | rfl
    · exact Or.inl ⟨hl, hr⟩
    · exact Or.inr (Or.inl ⟨hl, hr⟩)
    · exact Or.inr (Or.inr (Or.inl ⟨hl, hr⟩))
    · exact Or.inr (Or.inr (Or.inr rfl))

theorem isBlank_of_isKeyChar {c : CodePoint} (h : c.is isKeyChar = true) : isBlank c = false := by
  have hn := code_of_isKeyChar h
  simp only [isBlank, Bool.or_eq_false_iff, Bool.and_eq_false_iff, decide_eq_false_iff_not,
    beq_eq_false_iff_ne]
  omega

theorem isBoundary_of_isKeyChar {c : CodePoint} (h : c.is isKeyChar = true) :
    isBoundary c = false := by
  have hn := code_of_isKeyChar h
  simp only [isBoundary, Bool.or_eq_false_iff, Bool.and_eq_false_iff, decide_eq_false_iff_not,
    beq_eq_false_iff_ne]
  omega

theorem isBare_of_key {key : Text} (hne : key ≠ []) (h : ∀ c ∈ key, c.is isKeyChar = true) :
    IsBare key where
  ne_nil := hne
  strip_eq := strip_of_not_blank fun c hc => isBlank_of_isKeyChar (h c hc)
  comma_not_mem hc := absurd (h _ hc) (by decide)
  quote_not_mem hc := absurd (h _ hc) (by decide)

theorem isPlainKey_of_key {key : Text} (hne : key ≠ [])
    (h : ∀ c ∈ key, c.is isKeyChar = true) : isPlainKey key = true := by
  have hlast : key.getLast? ≠ some (.char '\n') := by
    intro he
    exact absurd (h _ (List.mem_of_getLast? he)) (by decide)
  rw [isPlainKey, if_neg hlast]
  simpa [hne] using h

/-! ## One line for a field -/

theorem oneLine_escape {s : Text} (hs : OnlyLineFeeds s) : OneLine (escape s) := by
  intro c hc
  obtain ⟨d, hd, hc⟩ := List.mem_flatMap.mp hc
  unfold escapeChar at hc
  split at hc
  · simp only [List.mem_cons, List.not_mem_nil, or_false, or_self] at hc
    subst hc
    decide
  · split at hc
    · simp only [List.mem_cons, List.not_mem_nil, or_false] at hc
      rcases hc with rfl | rfl <;> decide
    · split at hc
      · simp only [List.mem_cons, List.not_mem_nil, or_false] at hc
        rcases hc with rfl | rfl <;> decide
      · next hne =>
        obtain rfl := List.mem_singleton.mp hc
        by_contra hb
        exact hne (hs c hd (by simpa using hb))

theorem oneLine_quote {s : Text} (hs : OnlyLineFeeds s) : OneLine (quote s) := by
  have hquote : OneLine [CodePoint.char '"'] := by decide
  exact (hquote.append (oneLine_escape hs)).append hquote

theorem oneLine_joinPieces {ls : List Text} (h : ∀ l ∈ ls, OneLine l) :
    OneLine (joinPieces (.char ',') ls) := by
  induction ls with
  | nil => exact fun c hc => absurd hc (by simp [joinPieces])
  | cons l ls ih =>
    have hl := h l List.mem_cons_self
    cases ls with
    | nil => exact hl
    | cons m ms =>
      have hcomma : OneLine [CodePoint.char ','] := by decide
      have hrest := ih fun x hx => h x (List.mem_cons_of_mem l hx)
      rw [joinPieces_cons _ l (by simp)]
      exact hl.append (hcomma.append hrest)

namespace PrintedField

variable {p : PrintedField}

theorem WellFormed.oneLine (h : p.WellFormed) : OneLine p.line := by
  have hkey : OneLine p.derived.cardKey := fun c hc =>
    isBoundary_of_isKeyChar (h.key_chars c hc)
  have hargs : ∀ l ∈ p.args.map Padded.text, OneLine l := by
    intro l hl
    simp only [args, List.map_cons, List.map_nil, List.mem_cons, List.not_mem_nil, or_false,
      Padded.text] at hl
    rcases hl with rfl | rfl | rfl
    · exact (h.keyGap.1.2.append hkey).append h.keyGap.2.2
    · exact (h.fieldGap.1.2.append (oneLine_quote h.field_lines)).append h.fieldGap.2.2
    · exact (h.valueGap.1.2.append (oneLine_quote h.value_lines)).append h.valueGap.2.2
  have hname : OneLine (p.fact.predicate : Text) := by
    unfold fact
    split <;> simp only [Fact.predicate] <;> decide
  have hopen : OneLine [CodePoint.char '('] := by decide
  have hend : OneLine (.char ')' :: p.ending) := by
    unfold ending
    split <;> decide
  have hlist := hopen.append (oneLine_joinPieces hargs)
  exact (hname.append hlist).append hend

theorem WellFormed.args_for (h : p.WellFormed) :
    List.Forall₂ Padded.For p.args p.fact.terms := by
  have hterms : p.fact.terms = [p.derived.cardKey, p.derived.field, p.derived.value] := by
    unfold fact
    split <;> rfl
  have hkey := isBare_of_key h.key_ne_nil h.key_chars
  rw [hterms]
  exact .cons ⟨h.keyGap.1.1, .bare hkey, h.keyGap.2.1⟩
    (.cons ⟨h.fieldGap.1.1, writes_quote _, h.fieldGap.2.1⟩
      (.cons ⟨h.valueGap.1.1, writes_quote _, h.valueGap.2.1⟩ .nil))

theorem WellFormed.read?_line (h : p.WellFormed) : Fact.read? p.line = some p.fact := by
  have hdot : Fact.isEnding p.ending = true := by
    unfold ending
    split <;> decide
  have hread := Fact.read?_layout (w := []) rfl (Fact.isName_predicate p.fact)
    (by simp [args]) h.args_for hdot
  rw [List.nil_append, toString_ofString, Fact.ofTerms?_terms] at hread
  exact hread

theorem WellFormed.ofLine?_line (h : p.WellFormed) : Derived.ofLine? p.line = some p.derived := by
  have hkey := isPlainKey_of_key h.key_ne_nil h.key_chars
  rw [Derived.ofLine?, h.read?_line, Option.bind_some]
  unfold fact
  split <;> simp only [Derived.ofFact?, hkey, if_true]

/-- There is a parenthesis in the line, and none in a mark. -/
theorem not_isMark_line (p : PrintedField) : ¬ OutputLine.IsMark p.line := by
  have hmem : .char '(' ∈ strip p.line := mem_strip (by decide) (by simp [line])
  rintro (he | he) <;> rw [he] at hmem <;> exact absurd hmem (by decide)

end PrintedField

/-! ## Lines and their readings -/

namespace OutputLine

variable {i : OutputLine}

theorem WellFormed.oneLine (h : i.WellFormed) : OneLine i.text := by
  cases i with
  | printed p => exact PrintedField.WellFormed.oneLine h
  | remark l => exact h.1

theorem WellFormed.ofLine?_text (h : i.WellFormed) : Derived.ofLine? i.text = i.derived? := by
  cases i with
  | printed p => exact PrintedField.WellFormed.ofLine?_line h
  | remark l => exact h.2.1

theorem WellFormed.not_isMark (h : i.WellFormed) : ¬ IsMark i.text := by
  cases i with
  | printed p => exact p.not_isMark_line
  | remark l => exact h.2.2

end OutputLine

theorem ofLine?_of_blank {l : Text} (h : allBlank l = true) : Derived.ofLine? l = none := by
  have hread : Fact.read? l = none := by
    unfold Fact.read? Fact.cutFact
    simp only [stripStart_of_blank h, List.takeWhile_nil]
  rw [Derived.ofLine?, hread, Option.bind_none]

/-- Blank lines are passed over, and would say nothing anyhow. -/
theorem derivedIn_eq (s : Text) :
    derivedIn s = (pieces (.char '\n') s).filterMap Derived.ofLine? := by
  rw [derivedIn, List.filterMap_filter]
  refine List.filterMap_congr fun l _ => ?_
  by_cases hl : allBlank l = true
  · rw [hl, ofLine?_of_blank hl]
    rfl
  · simp [hl]

theorem derivedIn_joinPieces {ls : List Text} (h : ∀ l ∈ ls, OneLine l) :
    derivedIn (joinPieces (.char '\n') ls) = ls.filterMap Derived.ofLine? := by
  rw [derivedIn_eq]
  cases ls with
  | nil => rfl
  | cons l ls =>
    rw [pieces_joinPieces (by simp) fun l hl => (h l hl).not_mem (by decide)]

namespace Verdict

theorem ofLines_cons {l : Text} (h : ¬ OutputLine.IsMark l) (ls : List Text) :
    ofLines (l :: ls) = (ofLines ls).after l := by
  have hsat : ¬ strip l = satisfiableMark := fun e => h (Or.inl e)
  have hunsat : ¬ strip l = unsatisfiableMark := fun e => h (Or.inr e)
  rw [ofLines, if_neg hsat, if_neg hunsat]

theorem ofLines_satisfiable {before : List Text} (h : ∀ l ∈ before, ¬ OutputLine.IsMark l)
    {mark : Text} (hmark : strip mark = satisfiableMark) (rest : List Text) :
    ofLines (before ++ mark :: rest) = satisfiable before := by
  induction before with
  | nil => rw [List.nil_append, ofLines, if_pos hmark]
  | cons l before ih =>
    rw [List.cons_append, ofLines_cons (h l List.mem_cons_self),
      ih fun x hx => h x (List.mem_cons_of_mem l hx), after]

theorem ofLines_unsatisfiable {before : List Text} (h : ∀ l ∈ before, ¬ OutputLine.IsMark l)
    {mark : Text} (hmark : strip mark = unsatisfiableMark) (rest : List Text) :
    ofLines (before ++ mark :: rest) = unsatisfiable := by
  induction before with
  | nil =>
    have hsat : ¬ strip mark = satisfiableMark := by
      rw [hmark]
      decide
    rw [List.nil_append, ofLines, if_neg hsat, if_pos hmark]
  | cons l before ih =>
    rw [List.cons_append, ofLines_cons (h l List.mem_cons_self),
      ih fun x hx => h x (List.mem_cons_of_mem l hx), after]
    intro before' hb
    exact absurd hb (by simp)

theorem ofLines_unmarked {ls : List Text} (h : ∀ l ∈ ls, ¬ OutputLine.IsMark l) :
    ofLines ls = unmarked := by
  induction ls with
  | nil => rfl
  | cons l ls ih =>
    rw [ofLines_cons (h l List.mem_cons_self), ih fun x hx => h x (List.mem_cons_of_mem l hx),
      after]
    intro before' hb
    exact absurd hb (by simp)

end Verdict

/-! ## The whole output -/

theorem mark_ne_nil {mark : Text} (h : OutputLine.IsMark mark) : mark ≠ [] := by
  intro heq
  subst heq
  exact absurd h (by decide)

section

variable {items : List OutputLine} (hitems : ∀ i ∈ items, i.WellFormed)
include hitems

theorem oneLine_text : ∀ l ∈ items.map OutputLine.text, OneLine l := by
  intro l hl
  obtain ⟨i, hi, rfl⟩ := List.mem_map.mp hl
  exact (hitems i hi).oneLine

theorem not_isMark_text : ∀ l ∈ items.map OutputLine.text, ¬ OutputLine.IsMark l := by
  intro l hl
  obtain ⟨i, hi, rfl⟩ := List.mem_map.mp hl
  exact (hitems i hi).not_isMark

/-- The lines of an output: the items, the mark, and whatever stands behind it. -/
theorem lines_output {mark after : Text} (hmark : OutputLine.IsMark mark)
    (hline : OneLine mark) (hafter : ∀ c ∈ after.head?, isBoundary c = true) :
    ∃ rest, lines (linesText items ++ mark ++ after) =
      items.map OutputLine.text ++ mark :: rest := by
  obtain ⟨rest, hrest⟩ := lines_first hline (mark_ne_nil hmark) hafter
  refine ⟨rest, ?_⟩
  rw [linesText, List.append_assoc, lines_flatMap_append (oneLine_text hitems) rfl, hrest]

theorem filterMap_ofLine? :
    (items.map OutputLine.text).filterMap Derived.ofLine? =
      items.filterMap OutputLine.derived? := by
  rw [List.filterMap_map]
  exact List.filterMap_congr fun i hi => (hitems i hi).ofLine?_text

/-- Exactly the printed fields are read, in their order, if the first mark says that the
program is satisfiable.  Nothing is read if it says the contrary, nor from an output
without a mark. -/
theorem derived_written {mark after : Text} (hline : OneLine mark)
    (hafter : ∀ c ∈ after.head?, isBoundary c = true) :
    (strip mark = satisfiableMark →
        derived (linesText items ++ mark ++ after) =
          items.filterMap OutputLine.derived?) ∧
      (strip mark = unsatisfiableMark →
        derived (linesText items ++ mark ++ after) = []) ∧
      ∀ output : Text, (∀ l ∈ lines output, ¬ OutputLine.IsMark l) →
        derived output = [] := by
  refine ⟨fun hmark => ?_, fun hmark => ?_, fun output hnone => ?_⟩
  · obtain ⟨rest, hrest⟩ := lines_output hitems (Or.inl hmark) hline hafter
    have hverdict := Verdict.ofLines_satisfiable (not_isMark_text hitems) hmark rest
    rw [derived, Verdict.ofOutput, hrest, hverdict, Verdict.block?]
    change derivedIn (joinPieces (.char '\n') (items.map OutputLine.text)) = _
    rw [derivedIn_joinPieces (oneLine_text hitems), filterMap_ofLine? hitems]
  · obtain ⟨rest, hrest⟩ := lines_output hitems (Or.inr hmark) hline hafter
    have hverdict := Verdict.ofLines_unsatisfiable (not_isMark_text hitems) hmark rest
    rw [derived, Verdict.ofOutput, hrest, hverdict]
    rfl
  · rw [derived, Verdict.ofOutput, Verdict.ofLines_unmarked hnone]
    rfl

end

/-- A value that holds the mark on a line of its own, a remark, and a field behind the
mark. -/
theorem derived_written_mark_in_value :
    let field : PrintedField :=
      ⟨false, ⟨"a_1", "n", "x\nSATISFIABLE\n\"),"⟩, ([], []), ([' '], ['\t']), ([], [' ']), false⟩
    let items := [.printed field, .remark "info: ok"]
    let mark : Text := " SATISFIABLE"
    let after : Text := "\r\nfield(b, \"n\", \"y\")"
    (∀ i ∈ items, i.WellFormed) ∧ OneLine mark ∧ (∀ c ∈ after.head?, isBoundary c = true) ∧
      strip mark = satisfiableMark ∧
      derived (linesText items ++ mark ++ after) =
        [⟨"a_1", "n", "x\nSATISFIABLE\n\"),"⟩] := by
  intro field items mark after
  have hfield : field.WellFormed :=
    ⟨by decide, List.all_eq_true.mp (by decide), by decide, by decide, by decide, by decide,
      by decide⟩
  have hitems : ∀ i ∈ items, i.WellFormed := by
    intro i hi
    simp only [items, List.mem_cons, List.not_mem_nil, or_false] at hi
    rcases hi with rfl | rfl
    · exact hfield
    · exact ⟨by decide, rfl, by decide⟩
  have hline : OneLine mark := by decide
  have hafter : ∀ c ∈ after.head?, isBoundary c = true := by
    intro c hc
    rw [← Option.some.inj (show some (CodePoint.char '\r') = some c from hc)]
    decide
  have hmark : strip mark = satisfiableMark := by decide
  exact ⟨hitems, hline, hafter, hmark, (derived_written hitems hline hafter).1 hmark⟩

end CardLogic.Solver
