import CardLogic.Json.Reader
import CardLogic.Json.Writer

/-!
Texts and whole numbers that are written as JSON are read again.

Each character of a text is written so that it is read as one unit, a short escape, an escape by
number or the character itself, and no such unit is one half of a character.  So a text of
characters comes back whatever they are (`readText_written`).  A whole number ends where its digits
end, which what follows a value never prolongs (`readNumber_intChars`).
-/

namespace CardLogic.Json

/-! ## Texts -/

theorem hexValue?_hexDigit {n : Nat} (hn : n < 16) : hexValue? (Text.hexDigit n) = some n := by
  have hall : ∀ n < 16, hexValue? (Text.hexDigit n) = some n := by decide
  exact hall n hn

/-- Four digits give back a number that they are enough for. -/
theorem hexValue4?_hexDigits {n : Nat} (hn : n < 0x10000) :
    hexValue4? (Text.hexDigit (n / 16 / 16 / 16 % 16)) (Text.hexDigit (n / 16 / 16 % 16))
      (Text.hexDigit (n / 16 % 16)) (Text.hexDigit (n % 16)) = some n := by
  have hlt : ∀ m : Nat, m % 16 < 16 := fun m => Nat.mod_lt m (by omega)
  unfold hexValue4?
  rw [hexValue?_hexDigit (hlt _), hexValue?_hexDigit (hlt _), hexValue?_hexDigit (hlt _),
    hexValue?_hexDigit (hlt _)]
  simp only [bind, Option.bind, pure, Option.some.injEq]
  omega

/-- One more unit before those that are read. -/
def withUnit (u : Nat) (x : Option (List Nat × List Char)) : Option (List Nat × List Char) :=
  x.map fun (us, rest) => (u :: us, rest)

theorem readUnits_letter {c e : Char} (h : escaped? c = some e) (s : List Char) :
    readUnits ('\\' :: c :: s) = withUnit e.toNat (readUnits s) := by
  have hu : ¬ c = 'u' := by
    rintro rfl
    simp [escaped?] at h
  rw [readUnits.eq_4 c s fun _ _ _ _ _ hc _ => hu hc, h]
  cases readUnits s <;> rfl

theorem readUnits_number {n : Nat} (hn : n < 0x10000) (s : List Char) :
    readUnits ('\\' :: 'u' :: (Text.hexDigits 4 n ++ s)) = withUnit n (readUnits s) := by
  have hdigits : Text.hexDigits 4 n ++ s =
      Text.hexDigit (n / 16 / 16 / 16 % 16) :: Text.hexDigit (n / 16 / 16 % 16) ::
        Text.hexDigit (n / 16 % 16) :: Text.hexDigit (n % 16) :: s := rfl
  rw [hdigits, readUnits, hexValue4?_hexDigits hn]
  cases readUnits s <;> rfl

theorem readUnits_plain {c : Char} (hquote : c ≠ '"') (hback : c ≠ '\\') (hlow : ¬ c.toNat < 0x20)
    (s : List Char) : readUnits (c :: s) = withUnit c.toNat (readUnits s) := by
  rw [readUnits.eq_5 c s hquote (fun _ _ _ _ _ hc _ => hback hc) (fun _ _ hc _ => hback hc),
    if_neg hlow]
  cases readUnits s <;> rfl

/-- A character as it is written is read as one unit. -/
theorem readUnits_escapeChar (c : Char) (s : List Char) :
    readUnits (escapeChar c ++ s) = withUnit c.toNat (readUnits s) := by
  unfold escapeChar
  split
  · next h =>
    rcases h with rfl | rfl
    · exact readUnits_letter rfl s
    · exact readUnits_letter rfl s
  · next h =>
    obtain ⟨hquote, hback⟩ := not_or.mp h
    split
    · next h => subst h; exact readUnits_letter rfl s
    split
    · next h => subst h; exact readUnits_letter rfl s
    split
    · next h => subst h; exact readUnits_letter rfl s
    split
    · next h => subst h; exact readUnits_letter rfl s
    split
    · next h => subst h; exact readUnits_letter rfl s
    split
    · next h => exact readUnits_number (by omega) s
    · next h => exact readUnits_plain hquote hback h s

theorem readUnits_written (s rest : List Char) :
    readUnits (s.flatMap escapeChar ++ '"' :: rest) = some (s.map Char.toNat, rest) := by
  induction s with
  | nil => rfl
  | cons c s ih =>
    rw [List.flatMap_cons, List.append_assoc, readUnits_escapeChar, ih]
    rfl

/-- A character is no half of one. -/
theorem not_half (c : Char) : ¬ (0xD800 ≤ c.toNat ∧ c.toNat < 0xE000) := by
  have hvalid : c.toNat.isValidChar := c.valid
  unfold Nat.isValidChar at hvalid
  omega

theorem ofNat_toNat (c : Char) : CodePoint.ofNat c.toNat = .char c := by
  have hc := not_half c
  unfold CodePoint.ofNat CodePoint.firstHalf
  rw [dif_neg (by omega), Char.ofNat_toNat]

theorem joinHalves_map_toNat (s : List Char) : joinHalves (s.map Char.toNat) = .ofChars s := by
  induction s with
  | nil => rfl
  | cons c s ih =>
    have hc := not_half c
    cases s with
    | nil => simp only [List.map_cons, List.map_nil, joinHalves, ofNat_toNat]; rfl
    | cons d s =>
      rw [List.map_cons, List.map_cons, joinHalves, if_neg (by omega), ofNat_toNat,
        ← List.map_cons, ih]
      rfl

theorem readText_written (s rest : List Char) :
    readText (s.flatMap escapeChar ++ '"' :: rest) = .ok (.ofChars s, rest) := by
  unfold readText
  rw [readUnits_written]
  simp only [joinHalves_map_toNat]

/-! ## Numbers -/

/-- What follows a value that is written: a comma or the end of the line. -/
def Follows (s : List Char) : Prop := ∃ t, s = ',' :: t ∨ s = '\n' :: t

theorem isDigit_natChars {n : Nat} {c : Char} (h : c ∈ Decimal.natChars n) : c.isDigit = true :=
  Nat.isDigit_of_mem_toDigits (by omega) (by omega) h

/-- Only zero starts with a zero. -/
theorem head_natChars {n : Nat} (hn : 0 < n) : ∃ c ds, Decimal.natChars n = c :: ds ∧ c ≠ '0' := by
  induction n using Nat.strongRecOn with
  | ind n ih =>
    unfold Decimal.natChars at ih ⊢
    by_cases hlt : n < 10
    · rw [Nat.toDigits_of_lt_base hlt]
      refine ⟨n.digitChar, [], rfl, ?_⟩
      have hall : ∀ n < 10, 0 < n → n.digitChar ≠ '0' := by decide
      exact hall n hlt hn
    · obtain ⟨c, ds, hds, hc⟩ := ih (n / 10) (by omega) (by omega)
      have hsplit := Nat.toDigits_append_toDigits (by omega : 1 < 10) (by omega : 0 < n / 10)
        (Nat.mod_lt n (by omega : 0 < 10))
      rw [Nat.div_add_mod] at hsplit
      refine ⟨c, ds ++ Nat.toDigits 10 (n % 10), ?_, hc⟩
      rw [← hsplit, hds]
      rfl

theorem Follows.not_isDigit {s : List Char} (h : Follows s) :
    ∃ c t, s = c :: t ∧ c.isDigit = false := by
  obtain ⟨t, rfl | rfl⟩ := h
  · exact ⟨',', t, rfl, by decide⟩
  · exact ⟨'\n', t, rfl, by decide⟩

theorem readWhole_natChars (n : Nat) {rest : List Char} (hrest : Follows rest) :
    readWhole (Decimal.natChars n ++ rest) = some (Decimal.natChars n, rest) := by
  rcases Nat.eq_zero_or_pos n with rfl | hn
  · rfl
  · obtain ⟨c, ds, hds, hc⟩ := head_natChars hn
    have hdigit : ∀ d ∈ c :: ds, d.isDigit = true := fun d hd => isDigit_natChars (hds ▸ hd)
    have htail : ∀ d ∈ ds, d.isDigit = true := fun d hd => hdigit d (List.mem_cons_of_mem c hd)
    obtain ⟨e, t, rfl, he⟩ := hrest.not_isDigit
    have htake : (ds ++ e :: t).takeWhile Char.isDigit = ds := by
      rw [List.takeWhile_append_of_pos htail, List.takeWhile_cons_of_neg (by simp [he]),
        List.append_nil]
    have hdrop : (ds ++ e :: t).dropWhile Char.isDigit = e :: t := by
      rw [List.dropWhile_append_of_pos htail, List.dropWhile_cons_of_neg (by simp [he])]
    rw [hds, List.cons_append, readWhole.eq_2 c _ hc, if_pos (hdigit c List.mem_cons_self),
      htake, hdrop]

theorem readMagnitude_natChars (negative : Bool) {n : Nat}
    (hn : (Decimal.natChars n).length ≤ Decimal.digitLimit) {rest : List Char}
    (hrest : Follows rest) :
    readMagnitude negative (Decimal.natChars n ++ rest) =
      .ok (.whole (signed negative n), rest) := by
  have hfraction : readFraction rest = ([], rest) := by
    obtain ⟨t, rfl | rfl⟩ := hrest <;> rfl
  have hexponent : readExponent rest = (none, rest) := by
    obtain ⟨t, rfl | rfl⟩ := hrest <;> rfl
  have hdigits : Decimal.ofDigits (Decimal.natChars n) = .ok n := by
    unfold Decimal.ofDigits
    rw [if_neg (by omega), Decimal.ofDigitChars_natChars]
  unfold readMagnitude
  rw [readWhole_natChars n hrest]
  simp only [hfraction, hexponent, hdigits, and_self, if_true]

theorem exists_digit (n : Nat) :
    ∃ c ds, Decimal.natChars n = c :: ds ∧ c.isDigit = true := by
  rcases Nat.eq_zero_or_pos n with rfl | hn
  · exact ⟨'0', [], rfl, by decide⟩
  · obtain ⟨c, ds, hds, -⟩ := head_natChars hn
    exact ⟨c, ds, hds, isDigit_natChars (hds ▸ List.mem_cons_self)⟩

theorem ne_of_isDigit {c d : Char} (hc : c.isDigit = true) (hd : d.isDigit = false) : d ≠ c := by
  rintro rfl
  rw [hc] at hd
  exact absurd hd (by simp)

theorem readNumber_intChars {n : Int}
    (hn : (Decimal.natChars n.natAbs).length ≤ Decimal.digitLimit) {rest : List Char}
    (hrest : Follows rest) :
    readNumber (Decimal.intChars n ++ rest) = .ok (.whole n, rest) := by
  unfold Decimal.intChars
  by_cases hneg : n < 0
  · have hsigned : signed true n.natAbs = n := by
      simp only [signed, if_true]
      omega
    rw [if_pos hneg, List.cons_append, readNumber, readMagnitude_natChars true hn hrest, hsigned]
  · have hsigned : signed false n.natAbs = n := by
      simp only [signed, Bool.false_eq_true, if_false]
      omega
    obtain ⟨c, ds, hds, hc⟩ := exists_digit n.natAbs
    have hsign : ∀ s, Decimal.natChars n.natAbs ++ rest ≠ '-' :: s := by
      intro s heq
      rw [hds, List.cons_append] at heq
      exact ne_of_isDigit hc (by decide) (List.cons.inj heq).1.symm
    rw [if_neg hneg, readNumber.eq_2 _ hsign, readMagnitude_natChars false hn hrest, hsigned]

theorem exists_intChars (n : Int) :
    ∃ c s, Decimal.intChars n = c :: s ∧ (c = '-' ∨ c.isDigit = true) := by
  unfold Decimal.intChars
  by_cases hneg : n < 0
  · rw [if_pos hneg]
    exact ⟨'-', _, rfl, Or.inl rfl⟩
  · obtain ⟨c, ds, hds, hc⟩ := exists_digit n.natAbs
    rw [if_neg hneg]
    exact ⟨c, ds, hds, Or.inr hc⟩

/-- No name starts with a digit, and none with a sign and a digit. -/
theorem readName?_intChars (n : Int) (rest : List Char) :
    readName? (Decimal.intChars n ++ rest) = none := by
  obtain ⟨c, ds, hds, hc⟩ := exists_digit n.natAbs
  have hne : ∀ d : Char, d.isDigit = false → d ≠ c := fun d hd => ne_of_isDigit hc hd
  unfold Decimal.intChars readName? names
  rw [hds]
  by_cases hneg : n < 0
  · rw [if_pos hneg]
    simp [List.findSome?, List.isPrefixOf, hne 'I' (by decide)]
  · rw [if_neg hneg]
    simp [List.findSome?, List.isPrefixOf, hne 'n' (by decide), hne 't' (by decide),
      hne 'f' (by decide), hne 'N' (by decide), hne 'I' (by decide), hne '-' (by decide)]

end CardLogic.Json
