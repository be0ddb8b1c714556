import CardLogic.Proofs.Fact.Reading

/-!
Every layout of a fact is read, and read as this fact.

What a literal means is said here without the reader: its body is gone through from left to
right, a backslash and an `n` mean a line feed, a backslash and any other character mean that
character, and all other characters mean themselves (`Decodes`).  A layout is the text of a fact
with blanks wherever they may stand and with a dot or none.  The reader ignores quoting where it
looks for the end of the argument list and parentheses where it cuts the list, and still it gives
the predicate and the terms of every layout (`read_layouts`).
-/

namespace CardLogic

namespace Literal

/-- What the body of a literal means. -/
inductive Decodes : Text → Text → Prop where
  | nil : Decodes [] []
  | plain {c : CodePoint} {body value : Text} (hc : c ≠ '"' ∧ c ≠ '\\') (h : Decodes body value) :
      Decodes (c :: body) (c :: value)
  | lineFeed {body value : Text} (h : Decodes body value) :
      Decodes (.char '\\' :: .char 'n' :: body) (.char '\n' :: value)
  | escaped {c : CodePoint} {body value : Text} (hc : c ≠ 'n') (h : Decodes body value) :
      Decodes (.char '\\' :: c :: body) (c :: value)

namespace Decodes

variable {body value : Text}

theorem isBody (h : Decodes body value) : IsBody body := by
  induction h with
  | nil => exact .nil
  | plain hc _ ih => exact .plain hc ih
  | lineFeed _ ih => exact .escaped 'n' ih
  | @escaped c _ _ _ _ ih => exact .escaped c ih

/-- The body is decoded to what it means. -/
theorem unescape_eq (h : Decodes body value) : unescape body = value := by
  induction h with
  | nil => rfl
  | @plain c body value hc _ ih =>
    rw [unescape, ih]
    exact fun d rest heq => absurd heq hc.2
  | lineFeed _ ih => rw [unescape, if_pos rfl, ih]
  | escaped hc _ ih => rw [unescape, if_neg hc, ih]

end Decodes

/-- An argument as it may be written, and what it means. -/
inductive Means : Text → Text → Prop where
  | bare {s : Text} (hs : IsBare s) : Means s s
  | literal {body value : Text} (h : Decodes body value) :
      Means (.char '"' :: body ++ [.char '"']) value

theorem Means.writes {arg value : Text} (h : Means arg value) : Writes arg value := by
  cases h with
  | bare hs => exact .bare hs
  | literal h =>
    rw [← h.unescape_eq]
    exact .literal h.isBody

theorem unquote_quote (s : Text) : unquote (quote s) = s :=
  (writes_quote s).unquote_eq

end Literal

namespace Fact

open Text Literal

/-! ## Layouts -/

/-- The predicates, each with the number of its terms. -/
def signatures : List (String × Nat) :=
  [("card", 1), ("field", 3), ("label", 2), ("parent", 2), ("userfield", 2), ("fieldtype", 3)]

/-- How a fact is laid out: the blanks before its predicate, its arguments with the blanks around
each, the blanks behind the list and, if there is a dot, those behind the dot. -/
structure Layout where
  before : Text
  args : List Padded
  behind : Text
  behindDot : Option (Text)

namespace Layout

/-- What comes behind the list. -/
def ending (l : Layout) : Text :=
  match l.behindDot with
  | none => l.behind
  | some blanks => l.behind ++ .char '.' :: blanks

/-- The text of a layout with a predicate. -/
def text (l : Layout) (predicate : String) : Text :=
  l.before ++ (predicate : Text) ++
    .char '(' :: joinPieces (.char ',') (l.args.map Padded.text) ++ .char ')' :: l.ending

/-- The arguments of the layout mean these terms, and what is said to be blank is so. -/
structure States (l : Layout) (terms : List Text) : Prop where
  before : allBlank l.before = true
  args : List.Forall₂
    (fun p term => allBlank p.before = true ∧ Means p.arg term ∧ allBlank p.after = true)
    l.args terms
  behind : allBlank l.behind = true
  behindDot : ∀ blanks, l.behindDot = some blanks → allBlank blanks = true

variable {l : Layout} {terms : List Text}

theorem States.isEnding (h : l.States terms) : isEnding l.ending = true := by
  have hdot := h.behindDot
  unfold Fact.isEnding ending
  cases hbehindDot : l.behindDot with
  | none =>
    have hstrip : strip l.behind = [] := by
      rw [strip, stripStart_of_blank h.behind]
      rfl
    simp [hstrip]
  | some blanks =>
    have hstrip : strip (l.behind ++ [.char '.'] ++ blanks) = [.char '.'] := by
      rw [strip_pad h.behind (hdot blanks hbehindDot)]
      decide
    rw [List.append_assoc] at hstrip
    simp only [List.singleton_append] at hstrip
    simp [hstrip]

theorem States.padded (h : l.States terms) : List.Forall₂ Padded.For l.args terms :=
  h.args.imp fun _ _ hp => ⟨hp.1, hp.2.1.writes, hp.2.2⟩

/-- A layout is read as the fact of its predicate with the terms that its arguments mean. -/
theorem States.read (h : l.States terms) {predicate : String} (hname : IsName (predicate : Text))
    (hne : terms ≠ []) : read? (l.text predicate) = ofTerms? predicate terms := by
  have hargs : l.args ≠ [] := by
    intro hnil
    have hempty := h.args
    rw [hnil, List.forall₂_nil_left_iff] at hempty
    exact hne hempty
  unfold text
  rw [read?_layout h.before hname hargs h.padded h.isEnding, toString_ofString]

end Layout

/-! ## The facts of a predicate -/

/-- A predicate and as many terms as it takes make a fact of this predicate with these terms. -/
theorem ofTerms?_of_mem_signatures {predicate : String} {terms : List Text}
    (h : (predicate, terms.length) ∈ signatures) :
    ∃ f, ofTerms? predicate terms = some f ∧ f.predicate = predicate ∧ f.terms = terms := by
  simp only [signatures, List.mem_cons, Prod.mk.injEq, List.not_mem_nil, or_false] at h
  rcases h with ⟨rfl, h⟩ | ⟨rfl, h⟩ | ⟨rfl, h⟩ | ⟨rfl, h⟩ | ⟨rfl, h⟩ | ⟨rfl, h⟩
  · obtain ⟨k, rfl⟩ := List.length_eq_one_iff.mp h
    exact ⟨card k, rfl, rfl, rfl⟩
  · obtain ⟨k, n, v, rfl⟩ := List.length_eq_three.mp h
    exact ⟨field k n v, rfl, rfl, rfl⟩
  · obtain ⟨k, v, rfl⟩ := List.length_eq_two.mp h
    exact ⟨label k v, rfl, rfl, rfl⟩
  · obtain ⟨k, q, rfl⟩ := List.length_eq_two.mp h
    exact ⟨parent k q, rfl, rfl, rfl⟩
  · obtain ⟨k, n, rfl⟩ := List.length_eq_two.mp h
    exact ⟨userField k n, rfl, rfl, rfl⟩
  · obtain ⟨k, n, v, rfl⟩ := List.length_eq_three.mp h
    exact ⟨fieldType k n v, rfl, rfl, rfl⟩

/-- Every layout of a predicate with as many arguments as it takes is read as the fact of this
predicate with the terms that the arguments mean; so is every fact as it is rendered, if its keys
can stand as they are; and every text is read back from its literal. -/
theorem read_layouts :
    (∀ (l : Layout) (predicate : String) (terms : List Text),
      (predicate, terms.length) ∈ signatures → l.States terms →
        ∃ f, read? (l.text predicate) = some f ∧ f.predicate = predicate ∧ f.terms = terms) ∧
    (∀ f : Fact, f.KeysBare → read? f.render = some f) ∧
    ∀ s, unquote (quote s) = s := by
  refine ⟨fun l predicate terms hsignature h => ?_, fun f hf => read?_render hf, unquote_quote⟩
  obtain ⟨f, hf, rfl, rfl⟩ := ofTerms?_of_mem_signatures hsignature
  have hne : f.terms ≠ [] := by cases f <;> simp [Fact.terms]
  exact ⟨f, (h.read (isName_predicate f) hne).trans hf, rfl, rfl⟩

/-- A layout with blanks everywhere, parentheses in its key, and in its literals what ends a
literal, an argument and a fact. -/
def spacedLayout : Layout where
  before := ['\n', ' ']
  args := [⟨[' '], "a)(.b", ['\t']⟩,
    ⟨[], .char '"' :: (['x', '\\', '"', ')', ',', '('] : Text) ++ [.char '"'], [' ']⟩,
    ⟨['\r', '\n'], .char '"' :: (['\\', 'n', '\\', '\\', ' '] : Text) ++ [.char '"'], []⟩]
  behind := [' ']
  behindDot := some ['\n']

theorem states_spacedLayout : spacedLayout.States ["a)(.b", "x\"),(", "\n\\ "] := by
  have hkey : IsBare "a)(.b" := by decide
  have hname : Decodes ['x', '\\', '"', ')', ',', '('] "x\"),(" :=
    .plain (by decide) (.escaped (by decide)
      (.plain (by decide) (.plain (by decide) (.plain (by decide) .nil))))
  have hvalue : Decodes ['\\', 'n', '\\', '\\', ' '] "\n\\ " :=
    .lineFeed (.escaped (by decide) (.plain (by decide) .nil))
  refine ⟨by decide, ?_, by decide, fun blanks h => by cases h; decide⟩
  exact .cons ⟨by decide, .bare hkey, by decide⟩ (.cons ⟨by decide, .literal hname, by decide⟩
    (.cons ⟨by decide, .literal hvalue, by decide⟩ .nil))

theorem read_layouts_spaced :
    (spacedLayout.text "field" =
        "\n field( a)(.b\t,\"x\\\"),(\" ,\r\n\"\\n\\\\ \") .\n" ∧
      ∃ f, read? (spacedLayout.text "field") = some f ∧ f.predicate = "field" ∧
        f.terms = ["a)(.b", "x\"),(", "\n\\ "]) ∧
      read? (field "a)(.b" "x\"),(" "\n\\ ").render = some (field "a)(.b" "x\"),(" "\n\\ ") ∧
      unquote (quote "x\"),(") = "x\"),(" := by
  obtain ⟨hlayout, hrender, hquote⟩ := read_layouts
  have hbare : (field "a)(.b" "x\"),(" "\n\\ ").KeysBare := by
    intro k hk
    rw [List.mem_singleton.mp hk]
    decide
  exact ⟨⟨by decide, hlayout spacedLayout "field" _ (by decide) states_spacedLayout⟩,
    hrender _ hbare, hquote _⟩

end Fact

end CardLogic
