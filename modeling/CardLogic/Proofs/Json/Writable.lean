import CardLogic.Json.Reader
import CardLogic.Proofs.Except
import Mathlib.Algebra.Group.Nat.Defs

/-!
What is read can be written.

A number is read from no more digits than one is written with, and in decimal digits a number is
never longer than what it was read from (`isShort_of_ofDigits`).  So every whole number in a value
that was read is short (`isWritable_of_read`), however deep it lies.
-/

namespace CardLogic

namespace Metadata

/-- Setting a value keeps the whole numbers short. -/
theorem fieldsAreWritable_put {m : Metadata} {name : Text} {v : Value}
    (hm : Value.fieldsAreWritable m = true) (hv : v.isWritable = true) :
    Value.fieldsAreWritable (put m name v) = true := by
  induction m with
  | nil => simp [put, Value.fieldsAreWritable, hv]
  | cons f m ih =>
    obtain ⟨n, w⟩ := f
    simp only [Value.fieldsAreWritable, Bool.and_eq_true] at hm
    by_cases hname : n = name
    · simp [put, hname, Value.fieldsAreWritable, hv, hm.2]
    · simp [put, hname, Value.fieldsAreWritable, hm.1, ih hm.2]

theorem fieldsAreWritable_ofList {fields : List (Text × Value)}
    (h : Value.fieldsAreWritable fields = true) :
    Value.fieldsAreWritable (ofList fields) = true := by
  have hfold : ∀ (fs : List (Text × Value)) (m : Metadata), Value.fieldsAreWritable m = true →
      Value.fieldsAreWritable fs = true →
        Value.fieldsAreWritable (fs.foldl (fun m f => put m f.1 f.2) m) = true := by
    intro fs
    induction fs with
    | nil => exact fun m hm _ => hm
    | cons f fs ih =>
      intro m hm hfs
      simp only [Value.fieldsAreWritable, Bool.and_eq_true] at hfs
      exact ih _ (fieldsAreWritable_put hm hfs.1) hfs.2
  exact hfold fields [] rfl h

end Metadata

namespace Json

/-! ## Numbers -/

theorem ofDigitChars_lt {ds : List Char} (hds : ∀ c ∈ ds, c.isDigit = true) (n : Nat) :
    Nat.ofDigitChars 10 ds n < (n + 1) * 10 ^ ds.length := by
  induction ds generalizing n with
  | nil => simp
  | cons c ds ih =>
    have hdigit : c.toNat - '0'.toNat < 10 := by
      have hc := hds c List.mem_cons_self
      have hnine : c.toNat ≤ 57 := by
        simp only [Char.isDigit, Bool.and_eq_true, decide_eq_true_eq] at hc
        exact hc.2
      have hzero : '0'.toNat = 48 := rfl
      omega
    calc Nat.ofDigitChars 10 (c :: ds) n
        = Nat.ofDigitChars 10 ds (10 * n + (c.toNat - '0'.toNat)) := Nat.ofDigitChars_cons
      _ < (10 * n + (c.toNat - '0'.toNat) + 1) * 10 ^ ds.length :=
          ih (fun d hd => hds d (List.mem_cons_of_mem c hd)) _
      _ ≤ ((n + 1) * 10) * 10 ^ ds.length := Nat.mul_le_mul_right _ (by omega)
      _ = (n + 1) * 10 ^ (c :: ds).length := by
          rw [List.length_cons, Nat.pow_succ, Nat.mul_assoc, Nat.mul_comm 10]

/-- A number has no more digits than it was read from. -/
theorem isShort_of_ofDigits {ds : List Char} {n : Nat} (hds : ∀ c ∈ ds, c.isDigit = true)
    (h : Decimal.ofDigits ds = .ok n) (negative : Bool) :
    Decimal.isShort (signed negative n) = true := by
  unfold Decimal.ofDigits at h
  by_cases hlong : Decimal.digitLimit < ds.length
  · rw [if_pos hlong] at h
    exact absurd h (by simp)
  · rw [if_neg hlong] at h
    have hn : n = Nat.ofDigitChars 10 ds 0 := (Except.ok.inj h).symm
    have habs : (signed negative n).natAbs = n := by
      unfold signed
      split <;> simp
    have hsmall : n < 10 ^ Decimal.digitLimit := by
      rw [hn]
      calc Nat.ofDigitChars 10 ds 0 < (0 + 1) * 10 ^ ds.length := ofDigitChars_lt hds 0
        _ = 10 ^ ds.length := by rw [Nat.zero_add, Nat.one_mul]
        _ ≤ 10 ^ Decimal.digitLimit := Nat.pow_le_pow_right (by decide) (Nat.le_of_not_lt hlong)
    unfold Decimal.isShort Decimal.natChars
    rw [habs, decide_eq_true_eq]
    exact (Nat.length_toDigits_le_iff (by decide) (by decide)).mpr hsmall

theorem isDigit_of_readWhole {s ds rest : List Char} (h : readWhole s = some (ds, rest)) :
    ∀ c ∈ ds, c.isDigit = true := by
  unfold readWhole at h
  split at h
  · cases h
    simp
  · next c s =>
    split at h
    · next hc =>
      cases h
      intro d hd
      rcases List.mem_cons.mp hd with rfl | hd
      · exact hc
      · exact List.all_eq_true.mp List.all_takeWhile d hd
    · exact absurd h (by simp)
  · exact absurd h (by simp)

theorem isWritable_of_readMagnitude {negative : Bool} {s rest : List Char} {v : Value}
    (h : readMagnitude negative s = .ok (v, rest)) : v.isWritable = true := by
  unfold readMagnitude at h
  cases hwhole : readWhole s with
  | none => rw [hwhole] at h; exact absurd h (by simp)
  | some found =>
    obtain ⟨ds, s'⟩ := found
    rw [hwhole] at h
    dsimp only at h
    split at h
    · cases hdigits : Decimal.ofDigits ds with
      | error e => rw [hdigits] at h; exact absurd h (by simp)
      | ok n =>
        rw [hdigits] at h
        cases h
        exact isShort_of_ofDigits (isDigit_of_readWhole hwhole) hdigits negative
    · cases h
      rfl

theorem isWritable_of_readNumber {s rest : List Char} {v : Value}
    (h : readNumber s = .ok (v, rest)) : v.isWritable = true := by
  unfold readNumber at h
  split at h <;> exact isWritable_of_readMagnitude h

theorem isWritable_of_readName? {s rest : List Char} {v : Value}
    (h : readName? s = some (v, rest)) : v.isWritable = true := by
  obtain ⟨⟨name, w⟩, hmem, hfound⟩ := List.exists_of_findSome?_eq_some h
  have hnames : ∀ x ∈ names, x.2.isWritable = true := by decide
  dsimp only at hfound
  split at hfound
  · cases hfound
    exact hnames _ hmem
  · exact absurd hfound (by simp)

/-! ## Values -/

mutual

theorem isWritable_of_readValue : ∀ {fuel depth : Nat} {s rest : List Char} {v : Value},
    readValue fuel depth s = .ok (v, rest) → v.isWritable = true
  | 0, _, _, _, _, h => by
    rw [readValue] at h
    exact absurd h (by simp)
  | fuel + 1, depth, s, rest, v, h => by
    unfold readValue at h
    split at h
    · -- A text.
      obtain ⟨⟨x, rest'⟩, -, heq⟩ := Except.ok_of_map h
      cases heq
      rfl
    · split at h
      · exact absurd h (by simp)
      · split at h
        · cases h
          rfl
        · obtain ⟨⟨vs, rest'⟩, hitems, heq⟩ := Except.ok_of_map h
          cases heq
          exact areWritable_of_readItems hitems
    · split at h
      · exact absurd h (by simp)
      · split at h
        · cases h
          rfl
        · obtain ⟨⟨fs, rest'⟩, hfields, heq⟩ := Except.ok_of_map h
          cases heq
          exact Metadata.fieldsAreWritable_ofList (fieldsAreWritable_of_readFields hfields)
    · split at h
      · next found hname =>
        cases h
        exact isWritable_of_readName? hname
      · exact isWritable_of_readNumber h

theorem areWritable_of_readItems : ∀ {fuel depth : Nat} {s rest : List Char} {vs : List Value},
    readItems fuel depth s = .ok (vs, rest) → Value.areWritable vs = true
  | 0, _, _, _, _, h => by
    rw [readItems] at h
    exact absurd h (by simp)
  | fuel + 1, depth, s, rest, vs, h => by
    unfold readItems at h
    split at h
    · exact absurd h (by simp)
    · next v rest' hvalue =>
      have hv := isWritable_of_readValue hvalue
      split at h
      · cases h
        simp [Value.areWritable, hv]
      · obtain ⟨⟨ws, rest''⟩, hitems, heq⟩ := Except.ok_of_map h
        cases heq
        simp [Value.areWritable, hv, areWritable_of_readItems hitems]
      · exact absurd h (by simp)

theorem fieldsAreWritable_of_readFields :
    ∀ {fuel depth : Nat} {s rest : List Char} {fs : List (Text × Value)},
      readFields fuel depth s = .ok (fs, rest) → Value.fieldsAreWritable fs = true
  | 0, _, _, _, _, h => by
    rw [readFields] at h
    exact absurd h (by simp)
  | fuel + 1, depth, s, rest, fs, h => by
    unfold readFields at h
    split at h
    · split at h
      · exact absurd h (by simp)
      · split at h
        · split at h
          · exact absurd h (by simp)
          · next v rest' hvalue =>
            have hv := isWritable_of_readValue hvalue
            split at h
            · cases h
              simp [Value.fieldsAreWritable, hv]
            · obtain ⟨⟨gs, rest''⟩, hfields, heq⟩ := Except.ok_of_map h
              cases heq
              simp [Value.fieldsAreWritable, hv, fieldsAreWritable_of_readFields hfields]
            · exact absurd h (by simp)
        · exact absurd h (by simp)
    · exact absurd h (by simp)

end

/-- Every value that is read has a text. -/
theorem isWritable_of_read {text : String} {v : Value} (h : read text = .ok v) :
    v.isWritable = true := by
  unfold read readChars at h
  split at h
  · exact absurd h (by simp)
  · next v' rest hvalue =>
    split at h
    · cases h
      exact isWritable_of_readValue hvalue
    · exact absurd h (by simp)

end Json

end CardLogic
