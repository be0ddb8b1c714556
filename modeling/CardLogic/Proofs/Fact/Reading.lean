import CardLogic.Fact.Reader
import CardLogic.Proofs.Fact.Argument

/-!
Reading a fact back from its text.

The reader ignores quoting when it looks for the end of the argument list, and the
cutting of the list ignores parentheses.  Neither matters for a fact that is written as
`read?_layout` says: its list ends at the last closing parenthesis, since only blanks
and a dot follow.  `read?_render` is the case of a rendered fact.
-/

namespace CardLogic.Fact

open Text Literal

/-! ## The predicate and the list -/

/-- A text that can be the name of a predicate. -/
def IsName (name : Text) : Prop :=
  name.head?.any (·.is isNameStart) = true ∧ ∀ c ∈ name, c.is isNameChar = true

instance (name : Text) : Decidable (IsName name) :=
  @instDecidableAnd _ _ _ (List.decidableBAll (fun c => c.is isNameChar = true) name)

theorem isBlank_of_isNameStart {c : CodePoint} (h : c.is isNameStart = true) :
    isBlank c = false := by
  have hn : (97 ≤ code c ∧ code c ≤ 122) ∨ code c = 95 := by
    cases c with
    | half n => exact absurd h (by simp [CodePoint.is])
    | char c =>
      have h : isNameStart c = true := h
      simp only [isNameStart, Bool.or_eq_true, Bool.and_eq_true, decide_eq_true_eq] at h
      rcases h with ⟨hl, hr⟩ | rfl
      · exact Or.inl ⟨hl, hr⟩
      · exact Or.inr rfl
  simp only [isBlank, Bool.or_eq_false_iff, Bool.and_eq_false_iff, decide_eq_false_iff_not,
    beq_eq_false_iff_ne]
  omega

theorem cutAtLast_append {d : CodePoint} {s : Text} (h : d ∉ s) (l : Text) :
    cutAtLast d (l ++ d :: s) = some (l, s) := by
  have hnone : cutAtLast d s = none := by
    induction s with
    | nil => rfl
    | cons c s ih =>
      have hc : ¬ c = d := fun e => h (e ▸ List.mem_cons_self)
      rw [cutAtLast, ih fun e => h (List.mem_cons_of_mem c e)]
      exact if_neg hc
  induction l with
  | nil =>
    rw [List.nil_append, cutAtLast, hnone]
    exact if_pos rfl
  | cons c l ih => rw [List.cons_append, cutAtLast, ih]

theorem not_mem_of_isEnding {c : CodePoint} {s : Text} (hs : isEnding s = true)
    (hc : isBlank c = false) (hdot : c ≠ '.') : c ∉ s := by
  intro hmem
  have hstrip : c ∈ strip s := mem_strip hc hmem
  simp only [isEnding, Bool.or_eq_true, decide_eq_true_eq] at hs
  rcases hs with hs | hs
  · rw [hs] at hstrip
    exact absurd hstrip (by simp)
  · rw [hs] at hstrip
    exact hdot (by simpa using hstrip)

theorem cutFact_layout {w name list ending : Text} (hw : allBlank w = true)
    (hname : IsName name) (hending : isEnding ending = true) :
    cutFact (w ++ name ++ .char '(' :: list ++ .char ')' :: ending) = some (name, list) := by
  obtain ⟨hstart, hall⟩ := hname
  obtain ⟨c, rest, rfl⟩ : ∃ c rest, name = c :: rest := by
    cases name with
    | nil => exact absurd hstart (by simp)
    | cons c rest => exact ⟨c, rest, rfl⟩
  have hstart : c.is isNameStart = true := hstart
  have hclose : .char ')' ∉ ending := not_mem_of_isEnding hending (by decide) (by decide)
  have hskip : stripStart (w ++ (c :: rest) ++ .char '(' :: list ++ .char ')' :: ending) =
      (c :: rest) ++ .char '(' :: (list ++ .char ')' :: ending) := by
    rw [List.append_assoc, List.append_assoc, stripStart_append_of_blank hw, List.cons_append,
      stripStart_cons_of_not_blank (isBlank_of_isNameStart hstart)]
    simp
  have htake :
      ((c :: rest) ++ .char '(' :: (list ++ .char ')' :: ending)).takeWhile (·.is isNameChar) =
      c :: rest := by
    rw [List.takeWhile_append_of_pos hall, List.takeWhile_cons_of_neg (by decide),
      List.append_nil]
  have hdrop : ((c :: rest) ++ .char '(' :: (list ++ .char ')' :: ending)).drop (c :: rest).length =
      .char '(' :: (list ++ .char ')' :: ending) := List.drop_left
  unfold cutFact
  simp only [hskip, htake, hdrop]
  rw [if_pos hstart, cutAtLast_append hclose]
  simp only [hending, if_true]

/-! ## Written facts -/

/-- A fact as it may be written: blanks, the predicate, the arguments each with blanks
around it, and an ending of blanks with or without a dot. -/
theorem read?_layout {w name ending : Text} {ps : List Padded} {vs : List Text}
    (hw : allBlank w = true) (hname : IsName name) (hps : ps ≠ [])
    (hargs : List.Forall₂ Padded.For ps vs) (hending : isEnding ending = true) :
    read? (w ++ name ++ .char '(' :: joinPieces (.char ',') (ps.map Padded.text) ++
      .char ')' :: ending) = ofTerms? name.toString vs := by
  have hne : [] ∉ ps.map Padded.arg := by
    intro hmem
    obtain ⟨p, hp, hnil⟩ := List.mem_map.mp hmem
    obtain ⟨v, hv⟩ := Padded.exists_for_of_mem hargs hp
    exact hv.writes.ne_nil hnil
  have hread : (ps.map Padded.arg).map unquote = vs := by
    clear hne hps
    induction hargs with
    | nil => rfl
    | cons hpv _ ih => rw [List.map_cons, List.map_cons, hpv.writes.unquote_eq, ih]
  unfold read?
  rw [cutFact_layout hw hname hending]
  simp only [splitArgs_padded hps hargs, if_neg hne, hread]

/-- The arguments of a fact that are keys, and stand in it as they are. -/
def keys : Fact → List Text
  | card k => [k]
  | field k _ _ => [k]
  | label k _ => [k]
  | parent k p => [k, p]
  | userField k _ => [k]
  | fieldType k _ _ => [k]

/-- Every key of the fact can stand as it is. -/
def KeysBare (f : Fact) : Prop := ∀ k ∈ f.keys, IsBare k

theorem isName_predicate (f : Fact) : IsName f.predicate := by
  cases f <;> simp only [predicate] <;> decide

/-- Arguments as a rendered fact has them: a blank before each but the first. -/
def renderedArgs : List Text → List Padded
  | [] => []
  | a :: as => ⟨[], a, []⟩ :: as.map fun b => ⟨[' '], b, []⟩

theorem intercalate_eq_joinPieces (args : List Text) :
    List.intercalate ", " args =
      joinPieces (.char ',') ((renderedArgs args).map Padded.text) := by
  have hcomma : (", " : Text) = [.char ',', .char ' '] := by decide
  rw [hcomma]
  cases args with
  | nil => rfl
  | cons a as =>
    induction as generalizing a with
    | nil => simp [renderedArgs, Padded.text, joinPieces]
    | cons b bs ih =>
      have htail : joinPieces (.char ',') ((renderedArgs (b :: bs)).map Padded.text) =
          List.intercalate [.char ',', .char ' '] (b :: bs) := (ih b).symm
      rw [List.intercalate_cons_cons, ← htail]
      cases bs <;> simp [renderedArgs, Padded.text, joinPieces]

theorem render_eq (f : Fact) :
    f.render = (f.predicate : Text) ++
      .char '(' :: joinPieces (.char ',') ((renderedArgs f.args).map Padded.text) ++
      [.char ')', .char '.'] := by
  have hopen : ("(" : Text) = [.char '('] := by decide
  have hclose : (")." : Text) = [.char ')', .char '.'] := by decide
  rw [render, intercalate_eq_joinPieces, hopen, hclose]
  simp

/-- What the arguments of a fact are written as means the arguments. -/
theorem writes_args {f : Fact} (hf : f.KeysBare) : List.Forall₂ Writes f.args f.terms := by
  have bare (k : Text) (hk : k ∈ f.keys) : Writes k k := .bare (hf k hk)
  cases f with
  | card k => exact .cons (bare k (by simp [keys])) .nil
  | field k n v =>
    exact .cons (bare k (by simp [keys])) (.cons (writes_quote n) (.cons (writes_quote v) .nil))
  | label k v => exact .cons (bare k (by simp [keys])) (.cons (writes_quote v) .nil)
  | parent k p => exact .cons (bare k (by simp [keys])) (.cons (bare p (by simp [keys])) .nil)
  | userField k n => exact .cons (bare k (by simp [keys])) (.cons (writes_quote n) .nil)
  | fieldType k n t =>
    exact .cons (bare k (by simp [keys])) (.cons (writes_quote n) (.cons (writes_quote t) .nil))

theorem renderedArgs_for {as vs : List Text} (h : List.Forall₂ Writes as vs) :
    List.Forall₂ Padded.For (renderedArgs as) vs := by
  cases h with
  | nil => exact .nil
  | cons ha has =>
    refine .cons ⟨rfl, ha, rfl⟩ ?_
    rw [List.forall₂_map_left_iff]
    have hblank : allBlank [CodePoint.char ' '] = true := by decide
    exact has.imp fun b v hb => ⟨hblank, hb, rfl⟩

/-- A rendered fact is read back, whatever texts it holds beside its keys. -/
theorem read?_render {f : Fact} (hf : f.KeysBare) : read? f.render = some f := by
  have hargs := renderedArgs_for (writes_args hf)
  have hne : renderedArgs f.args ≠ [] := by
    cases f <;> simp [args, renderedArgs]
  have hdot : isEnding [.char '.'] = true := by decide
  have hread := read?_layout (w := []) rfl (isName_predicate f) hne hargs hdot
  rw [render_eq, ← List.nil_append (f.predicate : Text), hread, toString_ofString, ofTerms?_terms]

end CardLogic.Fact
