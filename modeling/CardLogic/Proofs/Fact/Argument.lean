import CardLogic.Fact.Literal
import CardLogic.Proofs.Text.Blank
import CardLogic.Proofs.Text.Lines
import Mathlib.Data.List.Forall2

/-!
Written arguments, and how a list of them is cut.

An argument is written as a bare term or as a literal (`Writes`).  A scan that enters a
written argument outside literals leaves it outside literals and meets no comma to cut
at (`Closed`), so a list of arguments with commas between them is cut into exactly
these arguments (`splitArgs_padded`).  Blanks around an argument do not matter.
-/

namespace CardLogic.Literal

open Text

/-! ## What may be written -/

/-- A term that stands as it is: not empty, no blank at its ends, no comma and no
double quote in it. -/
structure IsBare (s : Text) : Prop where
  ne_nil : s ≠ []
  strip_eq : strip s = s
  comma_not_mem : .char ',' ∉ s
  quote_not_mem : .char '"' ∉ s

instance (s : Text) : Decidable (IsBare s) :=
  decidable_of_iff (s ≠ [] ∧ strip s = s ∧ .char ',' ∉ s ∧ .char '"' ∉ s)
    ⟨fun ⟨h₁, h₂, h₃, h₄⟩ => ⟨h₁, h₂, h₃, h₄⟩, fun ⟨h₁, h₂, h₃, h₄⟩ => ⟨h₁, h₂, h₃, h₄⟩⟩

/-- What may stand between the quotes of a literal: characters that are neither a
double quote nor a backslash, and backslashes each with the character after it. -/
inductive IsBody : Text → Prop where
  | nil : IsBody []
  | plain {c : CodePoint} {s : Text} (hc : c ≠ '"' ∧ c ≠ '\\') (hs : IsBody s) : IsBody (c :: s)
  | escaped (c : CodePoint) {s : Text} (hs : IsBody s) : IsBody (.char '\\' :: c :: s)

/-- A text that is written for a term: the term itself, or a literal that means it. -/
inductive Writes : Text → Text → Prop where
  | bare {s : Text} (hs : IsBare s) : Writes s s
  | literal {b : Text} (hb : IsBody b) : Writes (.char '"' :: b ++ [.char '"']) (unescape b)

theorem isBody_escape (s : Text) : IsBody (escape s) := by
  induction s with
  | nil => exact .nil
  | cons c s ih =>
    rw [escape, List.flatMap_cons]
    change IsBody (escapeChar c ++ escape s)
    unfold escapeChar
    split
    · exact .escaped _ ih
    · split
      · exact .escaped _ ih
      · split
        · exact .escaped _ ih
        · next hs hq _ => exact .plain ⟨hq, hs⟩ ih

theorem writes_quote (s : Text) : Writes (quote s) s := by
  have h := Writes.literal (isBody_escape s)
  rwa [unescape_escape] at h

/-! ## Cutting -/

/-- Where a scan stands after a text. -/
def Scan.over (m : Scan) (s : Text) : Scan := s.foldl Scan.next m

/-- The scan meets no comma outside literals. -/
def Uncut : Scan → Text → Prop
  | _, [] => True
  | m, c :: s => ¬ (m = .outside ∧ c = ',') ∧ Uncut (m.next c) s

theorem Scan.over_append (m : Scan) (s t : Text) : m.over (s ++ t) = (m.over s).over t :=
  List.foldl_append

theorem uncut_append {m : Scan} {s t : Text} :
    Uncut m (s ++ t) ↔ Uncut m s ∧ Uncut (m.over s) t := by
  induction s generalizing m with
  | nil => exact ⟨fun h => ⟨trivial, h⟩, fun h => h.2⟩
  | cons c s ih => rw [List.cons_append, Uncut, Uncut, ih, and_assoc]; rfl

theorem Uncut.append {m : Scan} {s t : Text} (hs : Uncut m s) (ht : Uncut (m.over s) t) :
    Uncut m (s ++ t) :=
  uncut_append.mpr ⟨hs, ht⟩

theorem cutAtCommas_of_uncut {m : Scan} {s : Text} (h : Uncut m s) : cutAtCommas m s = [s] := by
  induction s generalizing m with
  | nil => rw [cutAtCommas]
  | cons c s ih => rw [cutAtCommas, if_neg h.1, ih h.2, consFirst]

theorem cutAtCommas_append {m : Scan} {s : Text} (h : Uncut m s) (ho : m.over s = .outside)
    (t : Text) : cutAtCommas m (s ++ .char ',' :: t) = s :: cutAtCommas .outside t := by
  induction s generalizing m with
  | nil =>
    have hm : m = .outside := ho
    rw [List.nil_append, cutAtCommas, if_pos ⟨hm, rfl⟩]
  | cons c s ih =>
    rw [List.cons_append, cutAtCommas, if_neg h.1, ih h.2 ho, consFirst]

/-- Between two commas outside literals the scan is outside literals all the time that
counts: it is so again at the end, and there is nothing to cut at before. -/
structure Closed (s : Text) : Prop where
  uncut : Uncut .outside s
  over_eq : Scan.over .outside s = .outside

theorem Closed.append {s t : Text} (hs : Closed s) (ht : Closed t) : Closed (s ++ t) where
  uncut := hs.uncut.append (by rw [hs.over_eq]; exact ht.uncut)
  over_eq := by rw [Scan.over_append, hs.over_eq, ht.over_eq]

theorem closed_of_not_mem {s : Text} (hc : .char ',' ∉ s) (hq : .char '"' ∉ s) : Closed s := by
  induction s with
  | nil => exact ⟨trivial, rfl⟩
  | cons c s ih =>
    have hrest := ih (fun h => hc (List.mem_cons_of_mem c h)) fun h => hq (List.mem_cons_of_mem c h)
    have hcomma : c ≠ ',' := fun e => hc (e ▸ List.mem_cons_self)
    have hquote : c ≠ '"' := fun e => hq (e ▸ List.mem_cons_self)
    have hnext : Scan.next .outside c = .outside := by rw [Scan.next, if_neg hquote]
    refine ⟨⟨fun h => hcomma h.2, ?_⟩, ?_⟩
    · rw [hnext]
      exact hrest.uncut
    · change Scan.over (Scan.next .outside c) s = .outside
      rw [hnext, hrest.over_eq]

theorem closed_of_blank {w : Text} (hw : allBlank w = true) : Closed w := by
  have h : ∀ c ∈ w, isBlank c = true := List.all_eq_true.mp hw
  refine closed_of_not_mem (fun hc => ?_) fun hq => ?_
  · exact absurd (h _ hc) (by decide)
  · exact absurd (h _ hq) (by decide)

/-- Inside a literal there is nothing to cut at, and its body does not end it. -/
theorem IsBody.scan {b : Text} (hb : IsBody b) :
    Uncut .inLiteral b ∧ Scan.over .inLiteral b = .inLiteral := by
  induction hb with
  | nil => exact ⟨trivial, rfl⟩
  | @plain c s hc hs ih =>
    have hnext : Scan.next .inLiteral c = .inLiteral := by
      rw [Scan.next, if_neg hc.2, if_neg hc.1]
    refine ⟨⟨fun h => absurd h.1 (by decide), ?_⟩, ?_⟩
    · rw [hnext]
      exact ih.1
    · change Scan.over (Scan.next .inLiteral c) s = .inLiteral
      rw [hnext, ih.2]
  | @escaped c s hs ih =>
    exact ⟨⟨fun h => absurd h.1 (by decide), fun h => absurd h.1 (by decide), ih.1⟩, ih.2⟩

theorem closed_literal {b : Text} (hb : IsBody b) : Closed (.char '"' :: b ++ [.char '"']) where
  uncut := by
    refine ⟨fun h => absurd h.2 (by decide), ?_⟩
    refine hb.scan.1.append ?_
    rw [hb.scan.2]
    exact ⟨fun h => absurd h.1 (by decide), trivial⟩
  over_eq := by
    change Scan.over .inLiteral (b ++ [.char '"']) = .outside
    rw [Scan.over_append, hb.scan.2]
    rfl

theorem Writes.closed {a v : Text} (h : Writes a v) : Closed a := by
  cases h with
  | bare hs => exact closed_of_not_mem hs.comma_not_mem hs.quote_not_mem
  | literal hb => exact closed_literal hb

/-! ## Reading a written argument -/

theorem strip_literal (b : Text) :
    strip (.char '"' :: b ++ [.char '"']) = .char '"' :: b ++ [.char '"'] :=
  strip_of_ends (by decide) (by decide) b

theorem body?_literal (b : Text) : body? (.char '"' :: b ++ [.char '"']) = some b := by
  rw [List.cons_append, body?, List.getLast?_concat, if_pos rfl, List.dropLast_concat]

theorem Writes.strip_eq {a v : Text} (h : Writes a v) : strip a = a := by
  cases h with
  | bare hs => exact hs.strip_eq
  | literal hb => exact strip_literal _

theorem Writes.ne_nil {a v : Text} (h : Writes a v) : a ≠ [] := by
  cases h with
  | bare hs => exact hs.ne_nil
  | literal hb => simp

theorem body?_of_quote_not_mem {s : Text} (h : .char '"' ∉ s) : body? s = none := by
  unfold body?
  split
  · exact absurd List.mem_cons_self h
  · rfl

theorem Writes.unquote_eq {a v : Text} (h : Writes a v) : unquote a = v := by
  rw [unquote, h.strip_eq]
  cases h with
  | bare hs => rw [body?_of_quote_not_mem hs.quote_not_mem]
  | literal hb => rw [body?_literal]

/-! ## Lists of arguments -/

/-- An argument with the blanks before and after it. -/
structure Padded where
  before : Text
  arg : Text
  after : Text

namespace Padded

def text (p : Padded) : Text := p.before ++ p.arg ++ p.after

/-- The argument is written for a term, and there are only blanks around it. -/
structure For (p : Padded) (v : Text) : Prop where
  before_blank : allBlank p.before = true
  writes : Writes p.arg v
  after_blank : allBlank p.after = true

theorem For.closed {p : Padded} {v : Text} (h : p.For v) : Closed p.text :=
  ((closed_of_blank h.before_blank).append h.writes.closed).append (closed_of_blank h.after_blank)

theorem For.strip_text {p : Padded} {v : Text} (h : p.For v) : strip p.text = p.arg := by
  rw [text, strip_pad h.before_blank h.after_blank, h.writes.strip_eq]

theorem exists_for_of_mem {ps : List Padded} {vs : List Text}
    (h : List.Forall₂ Padded.For ps vs) {p : Padded} (hp : p ∈ ps) : ∃ v, p.For v := by
  induction h with
  | nil => exact absurd hp (by simp)
  | cons hpv _ ih =>
    rcases List.mem_cons.mp hp with rfl | hp
    · exact ⟨_, hpv⟩
    · exact ih hp

end Padded

theorem cutAtCommas_joinPieces {ls : List Text} (hne : ls ≠ []) (h : ∀ l ∈ ls, Closed l) :
    cutAtCommas .outside (joinPieces (.char ',') ls) = ls := by
  induction ls with
  | nil => exact absurd rfl hne
  | cons l ls ih =>
    have hl : Closed l := h l List.mem_cons_self
    cases ls with
    | nil => exact cutAtCommas_of_uncut hl.uncut
    | cons m ms =>
      rw [joinPieces_cons _ l (by simp), cutAtCommas_append hl.uncut hl.over_eq,
        ih (by simp) fun x hx => h x (List.mem_cons_of_mem l hx)]

/-- A list of written arguments, with commas between them and blanks around them, is cut
into these arguments. -/
theorem splitArgs_padded {ps : List Padded} {vs : List Text} (hne : ps ≠ [])
    (h : List.Forall₂ Padded.For ps vs) :
    splitArgs (joinPieces (.char ',') (ps.map Padded.text)) = ps.map Padded.arg := by
  have hfor : ∀ p ∈ ps, ∃ v, p.For v := fun p hp => Padded.exists_for_of_mem h hp
  have hcut : cutAtCommas .outside (joinPieces (.char ',') (ps.map Padded.text)) =
      ps.map Padded.text := by
    refine cutAtCommas_joinPieces (by simpa using hne) fun l hl => ?_
    obtain ⟨p, hp, rfl⟩ := List.mem_map.mp hl
    obtain ⟨v, hv⟩ := hfor p hp
    exact hv.closed
  have hstrip : (ps.map Padded.text).map strip = ps.map Padded.arg := by
    rw [List.map_map]
    refine List.map_congr_left fun p hp => ?_
    obtain ⟨v, hv⟩ := hfor p hp
    exact hv.strip_text
  have hnil : ps.map Padded.arg ≠ [[]] := by
    intro he
    obtain ⟨p, rest, rfl⟩ := List.exists_cons_of_ne_nil hne
    obtain ⟨v, hv⟩ := hfor p List.mem_cons_self
    rw [List.map_cons] at he
    exact hv.writes.ne_nil (List.cons.inj he).1
  rw [splitArgs, hcut, hstrip, if_neg hnil]

end CardLogic.Literal
