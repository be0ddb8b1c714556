import CardLogic.Card.Encoding
import CardLogic.Proofs.Fact.Reading
import CardLogic.Proofs.Value.Writable

/-!
Reading the file of a card back.

A card's file is cut at its line feeds, and each piece is read as a fact.  The pieces are
the facts of the card as they are rendered, one to a line, and beside them only the line
that names the card and the empty texts at both ends, none of which is a fact.  Fields and
labels may hold any text; only the card's key and its parent's stand in the file unquoted.

A card with a whole number of too many digits has neither facts nor a file
(`isOk_facts`).
-/

namespace CardLogic.Card

open Text Literal

/-- A key that stands in a line of the program as it is. -/
structure IsKeyTerm (key : Text) : Prop where
  bare : IsBare key
  lineFeed_not_mem : .char '\n' ∉ key

instance (key : Text) : Decidable (IsKeyTerm key) :=
  decidable_of_iff (IsBare key ∧ .char '\n' ∉ key)
    ⟨fun ⟨h₁, h₂⟩ => ⟨h₁, h₂⟩, fun ⟨h₁, h₂⟩ => ⟨h₁, h₂⟩⟩

/-! ## One line for a fact -/

theorem lineFeed_not_mem_escape (s : Text) : .char '\n' ∉ escape s := by
  intro h
  obtain ⟨c, _, hc⟩ := List.mem_flatMap.mp h
  unfold escapeChar at hc
  split at hc
  · exact absurd hc (by decide)
  · split at hc
    · exact absurd hc (by decide)
    · split at hc
      · exact absurd hc (by decide)
      · next hne => exact hne (List.mem_singleton.mp hc).symm

theorem lineFeed_not_mem_quote (s : Text) : .char '\n' ∉ quote s := by
  unfold quote
  simp [lineFeed_not_mem_escape]

theorem lineFeed_not_mem_args {f : Fact} (hf : ∀ k ∈ f.keys, .char '\n' ∉ k) :
    ∀ a ∈ f.args, .char '\n' ∉ a := by
  cases f <;> simp only [Fact.keys, List.forall_mem_cons] at hf <;>
    simp [Fact.args, lineFeed_not_mem_quote, hf]

theorem lineFeed_not_mem_joinPieces {ls : List Text} (h : ∀ l ∈ ls, .char '\n' ∉ l) :
    .char '\n' ∉ joinPieces (.char ',') ls := by
  induction ls with
  | nil => simp [joinPieces]
  | cons l ls ih =>
    have hl := h l List.mem_cons_self
    cases ls with
    | nil => exact hl
    | cons m ms =>
      have hrest := ih fun x hx => h x (List.mem_cons_of_mem l hx)
      rw [joinPieces_cons _ l (by simp)]
      simp [hl, hrest]

/-- A rendered fact never spans two lines, whatever texts it holds beside its keys. -/
theorem lineFeed_not_mem_render {f : Fact} (hf : ∀ k ∈ f.keys, .char '\n' ∉ k) :
    .char '\n' ∉ f.render := by
  have hname : .char '\n' ∉ (f.predicate : Text) := by
    intro h
    have hchar := (Fact.isName_predicate f).2 '\n' h
    exact absurd hchar (by decide)
  have hargs := lineFeed_not_mem_args hf
  have hlist : .char '\n' ∉ joinPieces (.char ',')
      ((Fact.renderedArgs f.args).map Padded.text) := by
    refine lineFeed_not_mem_joinPieces fun l hl => ?_
    obtain ⟨p, hp, rfl⟩ := List.mem_map.mp hl
    cases ha : f.args with
    | nil => simp [ha, Fact.renderedArgs] at hp
    | cons a as =>
      rw [ha] at hargs
      simp only [ha, Fact.renderedArgs, List.mem_cons, List.mem_map] at hp
      rcases hp with rfl | ⟨b, hb, rfl⟩
      · simpa [Padded.text] using hargs a List.mem_cons_self
      · simpa [Padded.text] using hargs b (List.mem_cons_of_mem a hb)
  rw [Fact.render_eq]
  simp [hname, hlist]

/-! ## The facts of a card -/

section Facts

variable {key : String} {fs : List Fact} {f : Fact}

theorem keys_labelFacts {vs : List Value} (h : labelFacts key vs = .ok fs) (hf : f ∈ fs) :
    f.keys = [(key : Text)] := by
  induction vs generalizing fs with
  | nil => cases h; exact absurd hf (by simp)
  | cons v vs ih =>
    obtain ⟨text, -, h⟩ := Except.ok_of_bind h
    obtain ⟨rest, hrest, h⟩ := Except.ok_of_bind h
    cases h
    rcases List.mem_cons.mp hf with rfl | hf
    · rfl
    · exact ih hrest hf

theorem keys_fieldFacts {field : Text × Value} (h : fieldFacts key field = .ok fs) (hf : f ∈ fs) :
    f.keys = [(key : Text)] := by
  unfold fieldFacts at h
  split at h
  · exact keys_labelFacts h hf
  · obtain ⟨text, -, rfl⟩ := Except.ok_of_map h
    rw [List.mem_singleton.mp hf]
    rfl

theorem keys_metadataFacts {fields : Metadata} (h : metadataFacts key fields = .ok fs)
    (hf : f ∈ fs) : f.keys = [(key : Text)] := by
  induction fields generalizing fs with
  | nil => cases h; exact absurd hf (by simp)
  | cons field fields ih =>
    obtain ⟨first, hfirst, h⟩ := Except.ok_of_bind h
    obtain ⟨rest, hrest, h⟩ := Except.ok_of_bind h
    cases h
    rcases List.mem_append.mp hf with hf | hf
    · exact keys_fieldFacts hfirst hf
    · exact ih hrest hf

/-- A card's facts are about its own key, and about its parent's if it has one. -/
theorem key_of_mem_facts {c : Card} (h : c.facts = .ok fs) (hf : f ∈ fs) {k : Text}
    (hk : k ∈ f.keys) : k = c.key ∨ ∃ p, parentKey? c.path = some p ∧ k = (p : Text) := by
  obtain ⟨fields, hfields, rfl⟩ := Except.ok_of_map h
  rcases List.mem_append.mp hf with hf | hf
  · rw [keys_metadataFacts hfields hf] at hk
    exact Or.inl (List.mem_singleton.mp hk)
  · unfold parentFacts at hf
    cases hp : parentKey? c.path with
    | none => simp [hp] at hf
    | some p =>
      rw [hp] at hf
      obtain rfl := List.mem_singleton.mp hf
      simp only [Fact.keys, List.mem_cons, List.not_mem_nil, or_false] at hk
      exact hk.imp_right fun hk => ⟨p, rfl, hk⟩

end Facts

/-! ## Cards that have facts -/

/-- Whether every whole number in a card's metadata is short. -/
def isWritable (c : Card) : Bool := Value.fieldsAreWritable (c.metadata.getD [])

theorem isOk_labelFacts (key : String) (vs : List Value) :
    (labelFacts key vs).isOk = Value.areWritable vs := by
  induction vs with
  | nil => rfl
  | cons v vs ih =>
    rw [labelFacts, Except.isOk_bind_bind v.fieldText (labelFacts key vs), Value.isOk_fieldText, ih]
    rfl

/-- The labels of a value hold all whole numbers that the value holds, but for a zero. -/
theorem areWritable_labels (v : Value) : Value.areWritable (labels v) = v.isWritable := by
  cases v with
  | list items => rw [labels, Value.isWritable]
  | whole n =>
    by_cases hn : n = 0
    · subst hn
      rfl
    · simp [labels, Value.isBlank, hn, Value.areWritable]
  | object fields =>
    cases fields <;> simp [labels, Value.isBlank, Value.areWritable, Value.isWritable,
      Value.fieldsAreWritable]
  | null => rfl
  | bool b => cases b <;> rfl
  | real x =>
    by_cases hx : x.isZero = true <;>
      simp [labels, Value.isBlank, hx, Value.areWritable, Value.isWritable]
  | text s => cases s <;> rfl

theorem isOk_fieldFacts (key : String) (field : Text × Value) :
    (fieldFacts key field).isOk = field.2.isWritable := by
  unfold fieldFacts
  split
  · rw [isOk_labelFacts, areWritable_labels]
  · rw [Except.isOk_map, Value.isOk_fieldText]

theorem isOk_metadataFacts (key : String) (fields : Metadata) :
    (metadataFacts key fields).isOk = Value.fieldsAreWritable fields := by
  induction fields with
  | nil => rfl
  | cons field fields ih =>
    rw [metadataFacts, Except.isOk_bind_bind, isOk_fieldFacts, ih]
    rfl

/-- A card has facts just if all its whole numbers are short. -/
theorem isOk_facts (c : Card) : c.facts.isOk = c.isWritable := by
  unfold facts isWritable
  rw [Except.isOk_map, isOk_metadataFacts]

/-- The facts of a card that has facts. -/
def factList (c : Card) : List Fact := c.facts.toOption.getD []

/-- The text of the file of a card that has facts. -/
def text (c : Card) : Text := programText c.key c.factList

theorem facts_eq_ok {c : Card} (h : c.isWritable = true) : c.facts = .ok c.factList := by
  obtain ⟨fs, hfs⟩ := Except.exists_ok ((isOk_facts c).trans h)
  rw [factList, hfs]
  rfl

theorem encode_eq_ok {c : Card} (h : c.isWritable = true) : c.encode = .ok c.text := by
  rw [encode, facts_eq_ok h]
  rfl

theorem isOk_encode (c : Card) : c.encode.isOk = c.isWritable := by
  unfold encode
  rw [Except.isOk_map, isOk_facts]

/-! ## The lines of the file -/

section Lines

variable {key : String} {fs : List Fact}

theorem pieces_programText (hkey : .char '\n' ∉ (key : Text))
    (hfs : ∀ f ∈ fs, ∀ k ∈ f.keys, .char '\n' ∉ k) :
    pieces (.char '\n') (programText key fs) =
      [] :: nameLine key :: (fs.map Fact.render ++ [[]]) := by
  have hhead : .char '\n' ∉ nameLine key := by
    rw [nameLine, List.mem_append, not_or]
    exact ⟨by decide, hkey⟩
  have hlines : programText key fs =
      joinPieces (.char '\n') ([] :: ((nameLine key :: fs.map Fact.render) ++ [[]])) := by
    rw [joinPieces_cons _ [] (by simp), joinPieces_concat_nil _ (by simp)]
    rfl
  rw [hlines, pieces_joinPieces (by simp)]
  · simp
  · intro l hl
    simp only [List.cons_append, List.mem_cons, List.mem_append, List.not_mem_nil, or_false] at hl
    rcases hl with rfl | rfl | hl | rfl
    · simp
    · exact hhead
    · obtain ⟨f, hf, rfl⟩ := List.mem_map.mp hl
      exact lineFeed_not_mem_render (hfs f hf)
    · simp

theorem filterMap_read?_lines (hfs : ∀ f ∈ fs, ∀ k ∈ f.keys, IsKeyTerm k) :
    ([] :: nameLine key :: (fs.map Fact.render ++ [[]])).filterMap Fact.read? = fs := by
  have hempty : Fact.read? [] = none := rfl
  have hname : Fact.read? (nameLine key) = none := rfl
  have hfacts : (fs.map Fact.render).filterMap Fact.read? = fs := by
    rw [List.filterMap_map]
    refine (List.filterMap_congr fun f hf => ?_).trans (List.filterMap_some (l := fs))
    exact Fact.read?_render fun k hk => (hfs f hf k hk).bare
  rw [List.filterMap_cons_none hempty, List.filterMap_cons_none hname, List.filterMap_append,
    hfacts, List.filterMap_cons_none hempty, List.filterMap_nil, List.append_nil]

end Lines

/-- A card's file is the line that names the card and then one line for each of its
facts, and reading the lines gives back these facts and nothing else.  There are facts and a
file just if every whole number in the card's metadata is short. -/
theorem read_lines_encode {c : Card} (hkey : IsKeyTerm c.key)
    (hparent : ∀ p ∈ parentKey? c.path, IsKeyTerm p) :
    (c.encode.map fun text => (pieces (.char '\n') text).filterMap Fact.read?) = c.facts ∧
      (∀ fs, c.facts = .ok fs → ∃ text, c.encode = .ok text ∧
        pieces (.char '\n') text =
          [] :: nameLine c.key :: (fs.map Fact.render ++ [[]])) ∧
      (c.facts.isOk = true ↔ c.isWritable = true) := by
  have hkeys : ∀ fs, c.facts = .ok fs → ∀ f ∈ fs, ∀ k ∈ f.keys, IsKeyTerm k := by
    intro fs hfs f hf k hk
    rcases key_of_mem_facts hfs hf hk with rfl | ⟨p, hp, rfl⟩
    · exact hkey
    · exact hparent p hp
  have hpieces : ∀ fs, c.facts = .ok fs → pieces (.char '\n') (programText c.key fs) =
      [] :: nameLine c.key :: (fs.map Fact.render ++ [[]]) := fun fs hfs =>
    pieces_programText hkey.lineFeed_not_mem fun f hf k hk =>
      (hkeys fs hfs f hf k hk).lineFeed_not_mem
  refine ⟨?_, fun fs hfs => ⟨programText c.key fs, ?_, hpieces fs hfs⟩, by rw [isOk_facts]⟩
  · unfold encode
    cases hfs : c.facts with
    | error e => rfl
    | ok fs =>
      have hread : (pieces (.char '\n') (programText c.key fs)).filterMap Fact.read? = fs := by
        rw [hpieces fs hfs]
        exact filterMap_read?_lines (hkeys fs hfs)
      exact congrArg Except.ok hread
  · unfold encode
    rw [hfs]
    rfl

/-- Quotes, commas, parentheses and line feeds in a name, a value and a label. -/
theorem read_lines_encode_quotes :
    IsKeyTerm "a)" ∧
      (∀ p ∈ parentKey? ⟨.slash, ["w", "cardroot", "up", "c", "a)"]⟩, IsKeyTerm p) ∧
      ((encode ⟨"a)", ⟨.slash, ["w", "cardroot", "up", "c", "a)"]⟩,
          some [("n\", \"", .text "v).\nlabel(a, \"x\").\\"),
            ("labels", .list [.text "x,\ny", .null])]⟩).map fun text =>
          (pieces (.char '\n') text).filterMap Fact.read?) =
        .ok [.field "a)" "n\", \"" "v).\nlabel(a, \"x\").\\", .label "a)" "x,\ny", .label "a)" "",
          .parent "a)" "up"] := by
  have hkey : IsKeyTerm "a)" := by decide
  have hparent : ∀ p ∈ parentKey? ⟨.slash, ["w", "cardroot", "up", "c", "a)"]⟩, IsKeyTerm p := by
    intro p hp
    obtain rfl : "up" = p := Option.some.inj hp
    decide
  exact ⟨hkey, hparent, (read_lines_encode hkey hparent).1⟩

end CardLogic.Card
