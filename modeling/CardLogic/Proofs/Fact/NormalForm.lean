import CardLogic.Proofs.Fact.Content
import CardLogic.Proofs.Fact.Reading

/-!
The text of a fact that was read is a normal form.

A text that is read need not be well written: quotes may be left open, backslashes may stand
anywhere, names and values may stand without quotes.  What is read from it is rendered with its
keys as they were written and with literals for all other terms.  A key that was no literal brings
the scan of the argument list back to where it would have been: a piece between two commas that
are cut at leaves the scan outside literals, and so does what is left of it without blanks
(`KeepsCut.strip`).  So the rendered list is cut at just the commas that were put between its
arguments, and the fact is read back (`read_render_of_read`).
-/

namespace CardLogic

namespace Literal

open Text

/-! ## Pieces of a cutting -/

/-- What a cutting that starts at `m` leaves: a last piece with nothing to cut at, and pieces
before it that also leave the scan outside literals. -/
def AreCut : Scan → List Text → Prop
  | _, [] => False
  | m, [l] => Uncut m l
  | m, l :: l' :: ls => Uncut m l ∧ m.over l = .outside ∧ AreCut .outside (l' :: ls)

theorem AreCut.ne_nil {m : Scan} {ls : List Text} (h : AreCut m ls) : ls ≠ [] := by
  rintro rfl
  exact h

theorem areCut_cutAtCommas (m : Scan) (s : Text) : AreCut m (cutAtCommas m s) := by
  induction s generalizing m with
  | nil =>
    rw [cutAtCommas]
    exact trivial
  | cons c s ih =>
    rw [cutAtCommas]
    by_cases hcut : m = .outside ∧ c = ','
    · rw [if_pos hcut]
      have hrest := ih .outside
      obtain ⟨l, ls, hls⟩ := List.exists_cons_of_ne_nil hrest.ne_nil
      rw [hls] at hrest ⊢
      exact ⟨trivial, hcut.1, hrest⟩
    · rw [if_neg hcut]
      have hrest := ih (m.next c)
      obtain ⟨l, ls, hls⟩ := List.exists_cons_of_ne_nil hrest.ne_nil
      rw [hls] at hrest ⊢
      rw [consFirst]
      cases ls with
      | nil => exact ⟨hcut, hrest⟩
      | cons l' ls => exact ⟨⟨hcut, hrest.1⟩, hrest.2.1, hrest.2.2⟩

theorem cutAtCommas_of_areCut {m : Scan} {ls : List Text} (h : AreCut m ls) :
    cutAtCommas m (joinPieces (.char ',') ls) = ls := by
  induction ls generalizing m with
  | nil => exact absurd rfl h.ne_nil
  | cons l ls ih =>
    cases ls with
    | nil => exact cutAtCommas_of_uncut h
    | cons l' ls =>
      rw [joinPieces_cons _ l (List.cons_ne_nil l' ls), cutAtCommas_append h.1 h.2.1, ih h.2.2]

/-- A text that can stand in place of another one between commas. -/
structure KeepsCut (l l' : Text) : Prop where
  closed : Closed l → Closed l'
  uncut : Uncut .outside l → Uncut .outside l'

theorem AreCut.keepsCut {ls ls' : List Text} (h : AreCut .outside ls)
    (hkeeps : List.Forall₂ KeepsCut ls ls') : AreCut .outside ls' := by
  induction hkeeps with
  | nil => exact h
  | @cons l l' ls ls' hl hls ih =>
    cases hls with
    | nil => exact hl.uncut h
    | cons hm hms =>
      have hclosed := hl.closed ⟨h.1, h.2.1⟩
      exact ⟨hclosed.uncut, hclosed.over_eq, ih h.2.2⟩

namespace KeepsCut

variable {l w : Text}

theorem of_closed {l' : Text} (h : Closed l') : KeepsCut l l' := ⟨fun _ => h, fun _ => h.uncut⟩

theorem pad (hw : allBlank w = true) : KeepsCut l (w ++ l) where
  closed h := (closed_of_blank hw).append h
  uncut h := (closed_of_blank hw).uncut.append (by rw [(closed_of_blank hw).over_eq]; exact h)

end KeepsCut

/-- Blanks do not lead out of a literal. -/
theorem over_ne_outside_of_blank {w : Text} (hw : allBlank w = true) {m : Scan}
    (hm : m ≠ .outside) : m.over w ≠ .outside := by
  induction w generalizing m with
  | nil => exact hm
  | cons c w ih =>
    have hblank : ∀ d ∈ c :: w, isBlank d = true := List.all_eq_true.mp hw
    have hc := hblank c List.mem_cons_self
    have hquote : c ≠ '"' := fun he => absurd (he ▸ hc) (by decide)
    have hrest : allBlank w = true :=
      List.all_eq_true.mpr fun d hd => hblank d (List.mem_cons_of_mem c hd)
    refine ih hrest ?_
    cases m with
    | outside => exact absurd rfl hm
    | inLiteral =>
      rw [Scan.next, if_neg hquote]
      split <;> simp
    | afterBackslash => simp [Scan.next]

/-- What is left of a piece without the blanks at its ends can stand in its place. -/
theorem KeepsCut.strip (l : Text) : KeepsCut l (strip l) := by
  obtain ⟨w, w', hw, hw', hl⟩ := exists_pad l
  generalize Text.strip l = s at hl
  subst hl
  have hover := (closed_of_blank hw).over_eq
  have huncut : Uncut .outside (w ++ s ++ w') → Uncut .outside s := by
    intro h
    have hleft := (uncut_append.mp (uncut_append.mp h).1).2
    rwa [hover] at hleft
  refine ⟨fun h => ⟨huncut h.uncut, ?_⟩, huncut⟩
  by_contra hinside
  have hend := h.over_eq
  rw [Scan.over_append, Scan.over_append, hover] at hend
  exact over_ne_outside_of_blank hw' hinside hend

/-! ## Written arguments -/

/-- A text of at least two characters with double quotes at both ends. -/
def IsQuoted (a : Text) : Prop :=
  2 ≤ a.length ∧ a.head? = some (.char '"') ∧ a.getLast? = some (.char '"')

theorem body?_of_not_isQuoted {a : Text} (h : ¬ IsQuoted a) : body? a = none := by
  unfold body?
  split
  · next s =>
    refine if_neg fun hlast => h ⟨?_, rfl, ?_⟩
    · cases s with
      | nil => exact absurd hlast (by simp)
      | cons c s => simp
    · rw [List.getLast?_cons, hlast]
      rfl
  · rfl

/-- An argument that is no literal is read as it stands. -/
theorem unquote_of_not_isQuoted {a : Text} (hstrip : strip a = a) (h : ¬ IsQuoted a) :
    unquote a = a := by
  unfold unquote
  dsimp only
  rw [hstrip, body?_of_not_isQuoted h]

theorem splitArgs_of_areCut {ls : List Text} (h : AreCut .outside ls)
    (hne : ls.map strip ≠ [[]]) : splitArgs (joinPieces (.char ',') ls) = ls.map strip := by
  unfold splitArgs
  dsimp only
  rw [cutAtCommas_of_areCut h, if_neg hne]

end Literal

namespace Fact

open Text Literal

theorem strip_renderedArgs {as : List Text} (h : ∀ a ∈ as, strip a = a) :
    ((renderedArgs as).map Padded.text).map strip = as := by
  have hstrip (w a : Text) (hw : allBlank w = true) : strip (Padded.text ⟨w, a, []⟩) = strip a :=
    strip_pad hw rfl a
  cases as with
  | nil => rfl
  | cons a as =>
    have hrest : as.map ((strip ∘ Padded.text) ∘ fun b => ⟨[.char ' '], b, []⟩) = as.map id :=
      List.map_congr_left fun b hb =>
        (hstrip [.char ' '] b (by decide)).trans (h b (List.mem_cons_of_mem a hb))
    rw [renderedArgs, List.map_cons, List.map_cons, hstrip [] a rfl, h a List.mem_cons_self,
      List.map_map, List.map_map, hrest, List.map_id]

theorem keepsCut_renderedArgs (as : List Text) :
    List.Forall₂ KeepsCut as ((renderedArgs as).map Padded.text) := by
  have hpad (w a : Text) (hw : allBlank w = true) : KeepsCut a (Padded.text ⟨w, a, []⟩) := by
    rw [Padded.text, List.append_nil]
    exact .pad hw
  cases as with
  | nil => exact .nil
  | cons a as =>
    refine .cons (hpad [] a rfl) ?_
    rw [List.map_map, List.forall₂_map_right_iff, List.forall₂_same]
    exact fun b _ => hpad [.char ' '] b (by decide)

/-- A rendered fact is read back if its arguments mean its terms and can stand between commas. -/
theorem read?_render_of_areCut {f : Fact} {as : List Text}
    (has : f.args = as) (hcut : AreCut .outside as)
    (hstrip : ∀ a ∈ as, strip a = a) (hnil : [] ∉ as)
    (hterms : as.map unquote = f.terms) : read? f.render = some f := by
  have hpieces := strip_renderedArgs hstrip
  have hne : as ≠ [[]] := fun heq => hnil (heq ▸ List.mem_singleton_self [])
  have hsplit := splitArgs_of_areCut (hcut.keepsCut (keepsCut_renderedArgs as))
    (hpieces.symm ▸ hne)
  have hdot : isEnding [.char '.'] = true := by decide
  unfold read?
  rw [render_eq, has, ← List.nil_append (f.predicate : Text),
    cutFact_layout rfl (isName_predicate f) hdot]
  dsimp only
  rw [hsplit, hpieces, if_neg hnil, hterms, toString_ofString, ofTerms?_terms]

/-! ## Arguments written anew -/

/-- Arguments written anew: the first of them, which are keys, as they are, and the others as
literals. -/
def rewritten (n : Nat) (as : List Text) : List Text :=
  as.take n ++ (as.drop n).map fun a => quote (unquote a)

section Rewritten

variable {n : Nat} {as : List Text}

theorem mem_rewritten {a : Text} (h : a ∈ rewritten n as) :
    a ∈ as ∨ ∃ v, a = quote v := by
  rcases List.mem_append.mp h with h | h
  · exact Or.inl (List.mem_of_mem_take h)
  · obtain ⟨b, -, rfl⟩ := List.mem_map.mp h
    exact Or.inr ⟨unquote b, rfl⟩

/-- Written anew, the pieces of a list can still stand between commas. -/
theorem keepsCut_rewritten (n : Nat) (ls : List Text) :
    List.Forall₂ KeepsCut ls (rewritten n (ls.map strip)) := by
  unfold rewritten
  rw [← List.map_take, ← List.map_drop, List.map_map]
  nth_rewrite 1 [← List.take_append_drop n ls]
  refine List.rel_append ?_ ?_
  · rw [List.forall₂_map_right_iff, List.forall₂_same]
    exact fun l _ => .strip l
  · rw [List.forall₂_map_right_iff, List.forall₂_same]
    exact fun l _ => .of_closed (writes_quote _).closed

theorem unquote_rewritten : (rewritten n as).map unquote = as.map unquote := by
  have hback : (unquote ∘ fun a => quote (unquote a)) = unquote :=
    funext fun a => (writes_quote (unquote a)).unquote_eq
  unfold rewritten
  rw [List.map_append, List.map_map, hback, ← List.map_append, List.take_append_drop]

theorem keys_eq_take (f : Fact) : f.keys = f.terms.take f.keys.length := by
  cases f <;> rfl

/-- The keys of a fact stand in it as they are, and its other terms as literals. -/
theorem args_eq (f : Fact) : f.args = f.keys ++ (f.terms.drop f.keys.length).map quote := by
  cases f <;> rfl

/-- If the terms of a fact were written so, and its keys as they are, then the fact is rendered
with these arguments written anew. -/
theorem args_eq_rewritten {f : Fact} (hterms : f.terms = as.map unquote)
    (hkeys : ∀ a ∈ as.take f.keys.length, unquote a = a) :
    f.args = rewritten f.keys.length as := by
  have hkeyTexts : f.keys = as.take f.keys.length :=
    calc f.keys
      _ = f.terms.take f.keys.length := keys_eq_take f
      _ = (as.take f.keys.length).map unquote := by rw [hterms, List.map_take]
      _ = as.take f.keys.length := (List.map_congr_left hkeys).trans (List.map_id _)
  have hothers : (f.terms.drop f.keys.length).map quote =
      (as.drop f.keys.length).map fun a => quote (unquote a) := by
    rw [hterms, ← List.map_drop, List.map_map]
    rfl
  rw [args_eq, hothers, rewritten, ← hkeyTexts]

end Rewritten

/-! ## Facts that were read -/

/-- The arguments of a fact as a text writes them, without the blanks around them. -/
def writtenArgs (text : Text) : List Text :=
  match cutFact text with
  | none => []
  | some (_, list) => splitArgs list

theorem mem_of_mem_writtenArgs {text : Text} {arg : Text} (h : arg ∈ writtenArgs text)
    {c : CodePoint} (hc : c ∈ arg) : c ∈ text := by
  unfold writtenArgs at h
  split at h
  · exact absurd h List.not_mem_nil
  · next hcut => exact mem_of_cutFact hcut (mem_of_mem_splitArgs h hc)

/-- The written arguments are the pieces of a list without the blanks at their ends, and what
they mean are the terms. -/
theorem pieces_of_read {text : Text} {f : Fact} (h : read? text = some f) :
    ∃ ls, AreCut .outside ls ∧ writtenArgs text = ls.map strip ∧ [] ∉ writtenArgs text ∧
      f.terms = (writtenArgs text).map unquote := by
  unfold read? at h
  unfold writtenArgs
  cases hcut : cutFact text with
  | none => rw [hcut] at h; exact absurd h (by simp)
  | some cut =>
    obtain ⟨name, list⟩ := cut
    rw [hcut] at h
    dsimp only at h ⊢
    split at h
    · exact absurd h (by simp)
    · next hnil =>
      have hterms := terms_of_ofTerms? h
      refine ⟨cutAtCommas .outside list, areCut_cutAtCommas _ _, ?_, hnil, ?_⟩
      · unfold splitArgs at hterms ⊢
        dsimp only at hterms ⊢
        split at hterms
        · cases f <;> exact absurd hterms (by simp [Fact.terms])
        · next hne => rw [if_neg hne]
      · exact hterms

/-- What was read from a text is read back from its rendering, if none of its keys was written as
a literal. -/
theorem read_render_of_read {text : Text} {f : Fact} (h : read? text = some f)
    (hkeys : ∀ a ∈ (writtenArgs text).take f.keys.length, ¬ IsQuoted a) :
    read? f.render = some f := by
  obtain ⟨ls, hcut, hwritten, hnil, hterms⟩ := pieces_of_read h
  have hstrip : ∀ a ∈ writtenArgs text, strip a = a := by
    intro a ha
    rw [hwritten] at ha
    obtain ⟨l, -, rfl⟩ := List.mem_map.mp ha
    exact strip_strip l
  have hargs := args_eq_rewritten hterms fun a ha =>
    unquote_of_not_isQuoted (hstrip a (List.mem_of_mem_take ha)) (hkeys a ha)
  have hkeeps := keepsCut_rewritten f.keys.length ls
  rw [← hwritten] at hkeeps
  refine read?_render_of_areCut hargs (hcut.keepsCut hkeeps) (fun a ha => ?_) (fun hmem => ?_)
    (unquote_rewritten.trans hterms.symm)
  · rcases mem_rewritten ha with ha | ⟨v, rfl⟩
    · exact hstrip a ha
    · exact (writes_quote v).strip_eq
  · rcases mem_rewritten hmem with hmem | ⟨v, hv⟩
    · exact hnil hmem
    · exact (writes_quote v).ne_nil hv.symm

/-- A text that is read although its first key holds a comma in quotes and its second key leaves a
quote open. -/
def looseText : Text := " parent(a\"x,y)\\\"z\" ,\t(b\"c\\, d ) .\n"

def looseFact : Fact := parent "a\"x,y)\\\"z\"" "(b\"c\\, d"

theorem read_render_of_loose :
    read? looseText = some looseFact ∧
      (∀ a ∈ (writtenArgs looseText).take looseFact.keys.length, ¬ IsQuoted a) ∧
      looseFact.render = "parent(a\"x,y)\\\"z\", (b\"c\\, d)." ∧
      read? looseFact.render = some looseFact := by
  have hread : read? looseText = some looseFact := by decide
  have hkeys : ∀ a ∈ (writtenArgs looseText).take looseFact.keys.length, ¬ IsQuoted a := by
    unfold IsQuoted
    decide
  exact ⟨hread, hkeys, by decide, read_render_of_read hread hkeys⟩

end Fact

end CardLogic
