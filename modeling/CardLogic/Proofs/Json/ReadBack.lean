import CardLogic.Proofs.Json.Scalars
import Mathlib.Data.List.Basic

/-!
Values that are written as JSON are read again.

The writer puts each item and each field on a line of its own, and the reader skips the spaces
before it; which character ends an item is settled by what the writer puts behind it
(`Follows`).  The reader opens lists and objects only up to a limit, so a value comes back just if
it stays below (`read_write`).  Real numbers are left out, and so are whole numbers of more digits
than are read and objects that repeat a name, of which less is read than was written.

The text has no carriage return (`carriageReturn_not_mem_writeAt`), so reading it from a file,
where line ends become line feeds, does not change it.
-/

namespace CardLogic

namespace Value

mutual

/-- How many lists and objects lie in one another. -/
def levels : Value → Nat
  | .list items => levelsOfItems items + 1
  | .object fields => levelsOfFields fields + 1
  | _ => 0

def levelsOfItems : List Value → Nat
  | [] => 0
  | v :: vs => max v.levels (levelsOfItems vs)

def levelsOfFields : List (Text × Value) → Nat
  | [] => 0
  | (_, v) :: fs => max v.levels (levelsOfFields fs)

end

/-- Values that are read as they were written. -/
inductive Plain : Value → Prop
  | null : Plain .null
  | bool (b : Bool) : Plain (.bool b)
  | whole {n : Int} (digits : (Decimal.natChars n.natAbs).length ≤ Decimal.digitLimit) :
      Plain (.whole n)
  | text (s : Text) : Plain (.text s)
  | list {items : List Value} (each : ∀ v ∈ items, Plain v) : Plain (.list items)
  | object {fields : List (Text × Value)} (names : (Metadata.names fields).Nodup)
      (each : ∀ f ∈ fields, Plain f.2) : Plain (.object fields)

end Value

theorem Metadata.put_of_not_mem {m : Metadata} {name : Text} (h : name ∉ m.names) (v : Value) :
    m.put name v = m ++ [(name, v)] := by
  induction m with
  | nil => rfl
  | cons f m ih =>
    obtain ⟨n, w⟩ := f
    rw [names, List.map_cons, List.mem_cons, not_or] at h
    rw [put, if_neg fun he => h.1 he.symm, ih h.2]
    rfl

/-- Fields of different names are what they are. -/
theorem Metadata.ofList_of_nodup {fields : List (Text × Value)} (h : (names fields).Nodup) :
    ofList fields = fields := by
  have hfold : ∀ (m : Metadata) (fields : List (Text × Value)), (names (m ++ fields)).Nodup →
      fields.foldl (fun m f => put m f.1 f.2) m = m ++ fields := by
    intro m fields
    induction fields generalizing m with
    | nil => intro _; rw [List.append_nil]; rfl
    | cons f fields ih =>
      intro hnodup
      have hnew : f.1 ∉ names m := by
        rw [names, List.map_append, List.map_cons] at hnodup
        exact fun hmem => (List.nodup_append.mp hnodup).2.2 _ hmem _ List.mem_cons_self rfl
      rw [List.foldl_cons, put_of_not_mem hnew, ih, List.append_assoc]
      · rfl
      · rw [List.append_assoc]
        exact hnodup
  exact hfold [] fields h

namespace Json

/-! ## Values -/

theorem chars_newLine (level : Nat) :
    (newLine level).chars = '\n' :: List.replicate (2 * level) ' ' := by
  simp [newLine, Text.chars, CodePoint.shown]

/-- A text without halves is written without halves. -/
theorem isWhole_writeText (s : Text) : (writeText s).isWhole = s.isWhole := by
  have hescaped : Text.isWhole (s.flatMap escapeCodePoint) = s.isWhole := by
    induction s with
    | nil => rfl
    | cons c s ih =>
      cases c with
      | char c => rw [List.flatMap_cons, Text.isWhole_append, ih, escapeCodePoint,
          Text.isWhole_ofChars, Text.isWhole_cons, Bool.true_and]
      | half n => rfl
  unfold writeText
  rw [List.cons_append, Text.isWhole_cons, Text.isWhole_append, hescaped]
  exact Bool.and_true _

theorem chars_writeText {s : Text} (h : s.isWhole = true) :
    (writeText s).chars = '"' :: (s.chars.flatMap escapeChar ++ ['"']) := by
  have hescaped : Text.chars (s.flatMap escapeCodePoint) = s.chars.flatMap escapeChar := by
    induction s with
    | nil => rfl
    | cons c s ih =>
      cases c with
      | char c => rw [List.flatMap_cons, Text.chars_append, ih h, escapeCodePoint,
          Text.chars_ofChars, Text.chars_cons, List.flatMap_cons]
      | half n => exact absurd h (by simp [Text.isWhole, CodePoint.isChar])
  unfold writeText
  rw [List.cons_append, Text.chars_cons, Text.chars_append, hescaped]
  rfl

theorem skipSpace_newLine (level : Nat) {c : Char} (hc : isSpace c = false) (s : List Char) :
    skipSpace ((newLine level).chars ++ c :: s) = c :: s := by
  have hspace : ∀ d ∈ (newLine level).chars, isSpace d = true := by
    intro d hd
    rw [chars_newLine] at hd
    rcases List.mem_cons.mp hd with rfl | hd
    · decide
    · rw [List.eq_of_mem_replicate hd]
      decide
  unfold skipSpace
  rw [List.dropWhile_append_of_pos hspace, List.dropWhile_cons_of_neg (by simp [hc])]

/-- What is written of a value starts with a character that ends neither spaces nor a list. -/
theorem exists_writeAt (level : Nat) {v : Value} (h : v.Plain) :
    ∃ c s, (writeAt level v).chars = c :: s ∧ isSpace c = false ∧ c ≠ ']' := by
  cases h with
  | null => exact ⟨'n', _, rfl, by decide, by decide⟩
  | bool b => cases b <;> exact ⟨_, _, rfl, by decide, by decide⟩
  | @whole n _ =>
    rw [writeAt, Text.chars_ofChars]
    obtain ⟨c, s, hs, rfl | hc⟩ := exists_intChars n
    · exact ⟨'-', s, hs, by decide, by decide⟩
    · have hne : ∀ d : Char, d.isDigit = false → c ≠ d := fun d hd => (ne_of_isDigit hc hd).symm
      refine ⟨c, s, hs, ?_, hne ']' (by decide)⟩
      simp [isSpace, hne ' ' (by decide), hne '\t' (by decide), hne '\n' (by decide),
        hne '\r' (by decide)]
  | text s => exact ⟨'"', _, rfl, by decide, by decide⟩
  | @list items _ =>
    rw [writeAt]
    split <;> exact ⟨'[', _, rfl, by decide, by decide⟩
  | @object fields _ _ =>
    rw [writeAt]
    split <;> exact ⟨'\x7b', _, rfl, by decide, by decide⟩

theorem skipSpace_writeAt (level : Nat) {v : Value} (h : v.Plain) (s : List Char) :
    skipSpace ((newLine level).chars ++ ((writeAt level v).chars ++ s)) =
      (writeAt level v).chars ++ s := by
  obtain ⟨c, t, ht, hc, -⟩ := exists_writeAt level h
  rw [ht, List.cons_append, skipSpace_newLine level hc]

theorem follows_newLine (level : Nat) (s : List Char) : Follows ((newLine level).chars ++ s) :=
  ⟨_, Or.inr rfl⟩

theorem readValue_list {fuel depth : Nat} {c : Char} {t s : List Char}
    (hskip : skipSpace t = c :: s) (hc : c ≠ ']') :
    readValue (fuel + 1) depth ('[' :: t) =
      if depth = 0 then .error .tooDeep
      else (readItems fuel (depth - 1) (c :: s)).map fun (vs, rest) => (.list vs, rest) := by
  rw [readValue, hskip]
  split
  · rfl
  · split
    · next he => exact absurd (List.cons.inj he).1 hc
    · rfl

theorem readValue_object {fuel depth : Nat} {c : Char} {t s : List Char}
    (hskip : skipSpace t = c :: s) (hc : c ≠ '\x7d') :
    readValue (fuel + 1) depth ('\x7b' :: t) =
      if depth = 0 then .error .tooDeep
      else (readFields fuel (depth - 1) (c :: s)).map fun (fs, rest) =>
        (.object (Metadata.ofList fs), rest) := by
  rw [readValue, hskip]
  split
  · rfl
  · split
    · next he => exact absurd (List.cons.inj he).1 hc
    · rfl

/-- What is written of a value is read as the value if it has no half in it, as far as lists and
objects may lie in one another. -/
def ReadsBack (v : Value) : Prop :=
  ∀ level fuel depth rest, (writeAt level v).isWhole = true → Follows rest →
    2 * (writeAt level v).chars.length ≤ fuel →
    readValue fuel depth ((writeAt level v).chars ++ rest) =
      if v.levels ≤ depth then .ok (v, rest) else .error .tooDeep

theorem lt_length_newLine_append (level : Nat) (s : List Char) :
    s.length < ((newLine level).chars ++ s).length := by
  rw [chars_newLine, List.cons_append, List.length_cons, List.length_append]
  omega

theorem writeItems_cons (level : Nat) (v w : Value) (vs : List Value) :
    writeItems level (v :: w :: vs) =
      newLine level ++ (writeAt level v ++ .char ',' :: writeItems level (w :: vs)) := by
  rw [writeItems, List.append_assoc]
  simp

theorem exists_writeItems (level : Nat) (v : Value) (vs : List Value) :
    ∃ more, writeItems level (v :: vs) = newLine level ++ (writeAt level v ++ more) := by
  cases vs with
  | nil => exact ⟨[], by rw [writeItems, List.append_nil]⟩
  | cons w vs => exact ⟨_, writeItems_cons level v w vs⟩

theorem readItems_written {items : List Value} (hne : items ≠ [])
    (h : ∀ v ∈ items, v.Plain ∧ ReadsBack v) {level above fuel depth : Nat} {rest : List Char}
    (hwhole : (writeItems level items).isWhole = true)
    (hfuel : 2 * (writeItems level items).chars.length ≤ fuel) :
    readItems fuel depth
        (skipSpace ((writeItems level items).chars ++ ((newLine above).chars ++ ']' :: rest))) =
      if Value.levelsOfItems items ≤ depth then .ok (items, rest) else .error .tooDeep := by
  induction items generalizing fuel with
  | nil => exact absurd rfl hne
  | cons v vs ih =>
    obtain ⟨hplain, hv⟩ := h v List.mem_cons_self
    cases vs with
    | nil =>
      have hlen := lt_length_newLine_append level (writeAt level v).chars
      rw [writeItems, Text.isWhole_append, Bool.and_eq_true] at hwhole
      rw [writeItems, Text.chars_append] at hfuel ⊢
      obtain ⟨fuel, rfl⟩ : ∃ k, fuel = k + 1 := ⟨fuel - 1, by omega⟩
      rw [List.append_assoc, skipSpace_writeAt level hplain, readItems,
        hv _ _ _ _ hwhole.2 (follows_newLine _ _) (by omega), Value.levelsOfItems,
        Value.levelsOfItems, Nat.max_zero]
      by_cases hdepth : v.levels ≤ depth
      · rw [if_pos hdepth, if_pos hdepth]
        dsimp only
        rw [skipSpace_newLine above (by decide)]
        rfl
      · rw [if_neg hdepth, if_neg hdepth]
    | cons w vs =>
      have hlen := lt_length_newLine_append level
        ((writeAt level v).chars ++ ',' :: (writeItems level (w :: vs)).chars)
      simp only [writeItems_cons, Text.isWhole_append, Text.isWhole_cons,
        Bool.and_eq_true] at hwhole
      simp only [writeItems_cons, Text.chars_append, Text.chars_cons] at hfuel ⊢
      rw [List.length_append, List.length_cons] at hlen
      obtain ⟨fuel, rfl⟩ : ∃ k, fuel = k + 1 := ⟨fuel - 1, by omega⟩
      have hrest := ih (by simp) (fun x hx => h x (List.mem_cons_of_mem v hx)) hwhole.2.2
        (by omega : 2 * (writeItems level (w :: vs)).chars.length ≤ fuel)
      rw [List.append_assoc, List.append_assoc, List.cons_append, skipSpace_writeAt level hplain,
        readItems, hv _ _ _ _ hwhole.2.1 ⟨_, Or.inl rfl⟩ (by omega), Value.levelsOfItems]
      by_cases hdepth : v.levels ≤ depth
      · have hcomma : ∀ s, skipSpace (',' :: s) = ',' :: s := fun s => rfl
        simp only [if_pos hdepth, hcomma, hrest]
        by_cases hmore : Value.levelsOfItems (w :: vs) ≤ depth
        · rw [if_pos hmore, if_pos (by omega)]
          rfl
        · rw [if_neg hmore, if_neg (by omega)]
          rfl
      · rw [if_neg hdepth, if_neg (by omega)]

theorem writeFields_cons (level : Nat) (f g : Text × Value) (fs : List (Text × Value)) :
    writeFields level (f :: g :: fs) =
      newLine level ++ (writeText f.1 ++ .char ':' :: .char ' ' ::
        (writeAt level f.2 ++ .char ',' :: writeFields level (g :: fs))) := by
  rw [writeFields]
  · simp
  · exact List.cons_ne_nil g fs

theorem writeFields_singleton (level : Nat) (f : Text × Value) :
    writeFields level [f] =
      newLine level ++ (writeText f.1 ++ .char ':' :: .char ' ' :: writeAt level f.2) := by
  rw [writeFields]
  simp

theorem exists_writeFields (level : Nat) (f : Text × Value) (fs : List (Text × Value)) :
    ∃ more, writeFields level (f :: fs) = newLine level ++ .char '"' :: more := by
  cases fs with
  | nil => exact ⟨_, writeFields_singleton level f⟩
  | cons g fs => exact ⟨_, writeFields_cons level f g fs⟩

/-- What is read after a field: the end of all fields, or more of them. -/
def afterField (fuel depth : Nat) (f : Text × Value) :
    List Char → Reading (List (Text × Value))
  | '\x7d' :: rest => .ok ([f], rest)
  | ',' :: rest =>
    (readFields fuel depth (skipSpace rest)).map fun (fs, rest) => (f :: fs, rest)
  | _ => .error .malformed

/-- The name of a field and its value. -/
theorem readFields_field {f : Text × Value} (hplain : f.2.Plain) (h : ReadsBack f.2)
    {level fuel depth : Nat} {s : List Char} (hname : (writeText f.1).isWhole = true)
    (hwhole : (writeAt level f.2).isWhole = true) (hs : Follows s)
    (hfuel : 2 * (writeAt level f.2).chars.length ≤ fuel) :
    readFields (fuel + 1) depth (skipSpace ((newLine level).chars ++
        ((writeText f.1).chars ++ ':' :: ' ' :: ((writeAt level f.2).chars ++ s)))) =
      if f.2.levels ≤ depth then afterField fuel depth f (skipSpace s) else .error .tooDeep := by
  rw [isWhole_writeText] at hname
  obtain ⟨c, t, ht, hc, -⟩ := exists_writeAt level hplain
  have hspace : skipSpace (' ' :: ((writeAt level f.2).chars ++ s)) =
      (writeAt level f.2).chars ++ s := by
    rw [ht]
    unfold skipSpace
    rw [List.dropWhile_cons_of_pos (by decide), List.cons_append,
      List.dropWhile_cons_of_neg (by simp [hc])]
  have hcolon : ∀ s, skipSpace (':' :: s) = ':' :: s := fun s => rfl
  have hopen : skipSpace ((newLine level).chars ++
      ((writeText f.1).chars ++ ':' :: ' ' :: ((writeAt level f.2).chars ++ s))) =
        '"' :: (f.1.chars.flatMap escapeChar ++
          '"' :: ':' :: ' ' :: ((writeAt level f.2).chars ++ s)) := by
    rw [chars_writeText hname, List.cons_append, List.append_assoc,
      skipSpace_newLine level (by decide), List.singleton_append]
  rw [hopen, readFields, readText_written, Text.isWhole_iff.mp hname]
  simp only [hcolon, hspace, h _ _ _ _ hwhole hs hfuel]
  by_cases hdepth : f.2.levels ≤ depth
  · simp only [if_pos hdepth]
    rfl
  · simp only [if_neg hdepth]

theorem readFields_written {fields : List (Text × Value)} (hne : fields ≠ [])
    (h : ∀ f ∈ fields, f.2.Plain ∧ ReadsBack f.2) {level above fuel depth : Nat}
    {rest : List Char} (hwhole : (writeFields level fields).isWhole = true)
    (hfuel : 2 * (writeFields level fields).chars.length ≤ fuel) :
    readFields fuel depth
        (skipSpace ((writeFields level fields).chars ++
          ((newLine above).chars ++ '\x7d' :: rest))) =
      if Value.levelsOfFields fields ≤ depth then .ok (fields, rest) else .error .tooDeep := by
  induction fields generalizing fuel with
  | nil => exact absurd rfl hne
  | cons f fs ih =>
    obtain ⟨hplain, hf⟩ := h f List.mem_cons_self
    cases fs with
    | nil =>
      simp only [writeFields_singleton, Text.isWhole_append, Text.isWhole_cons,
        Bool.and_eq_true] at hwhole
      simp only [writeFields_singleton, Text.chars_append, Text.chars_cons] at hfuel ⊢
      simp only [List.length_append, List.length_cons] at hfuel
      obtain ⟨fuel, rfl⟩ : ∃ k, fuel = k + 1 := ⟨fuel - 1, by omega⟩
      simp only [List.append_assoc, List.cons_append]
      rw [readFields_field hplain hf hwhole.2.1 hwhole.2.2 (follows_newLine _ _) (by omega),
        Value.levelsOfFields, Value.levelsOfFields, Nat.max_zero,
        skipSpace_newLine above (by decide)]
      rfl
    | cons g fs =>
      simp only [writeFields_cons, Text.isWhole_append, Text.isWhole_cons,
        Bool.and_eq_true] at hwhole
      simp only [writeFields_cons, Text.chars_append, Text.chars_cons] at hfuel ⊢
      simp only [List.length_append, List.length_cons] at hfuel
      obtain ⟨fuel, rfl⟩ : ∃ k, fuel = k + 1 := ⟨fuel - 1, by omega⟩
      have hrest := ih (by simp) (fun x hx => h x (List.mem_cons_of_mem f hx)) hwhole.2.2.2
        (by omega : 2 * (writeFields level (g :: fs)).chars.length ≤ fuel)
      have hcomma : ∀ s, skipSpace (',' :: s) = ',' :: s := fun s => rfl
      simp only [List.append_assoc, List.cons_append]
      rw [readFields_field hplain hf hwhole.2.1 hwhole.2.2.1 ⟨_, Or.inl rfl⟩ (by omega),
        Value.levelsOfFields]
      by_cases hdepth : f.2.levels ≤ depth
      · simp only [if_pos hdepth, hcomma, afterField, hrest]
        by_cases hmore : Value.levelsOfFields (g :: fs) ≤ depth
        · rw [if_pos hmore, if_pos (by omega)]
          rfl
        · rw [if_neg hmore, if_neg (by omega)]
          rfl
      · rw [if_neg hdepth, if_neg (by omega)]

/-- The first call takes one unit of fuel. -/
theorem readsBack_of_succ {v : Value} (hplain : v.Plain)
    (h : ∀ level fuel depth rest, (writeAt level v).isWhole = true → Follows rest →
      2 * (writeAt level v).chars.length ≤ fuel + 1 →
      readValue (fuel + 1) depth ((writeAt level v).chars ++ rest) =
        if v.levels ≤ depth then .ok (v, rest) else .error .tooDeep) : ReadsBack v := by
  intro level fuel depth rest hwhole hrest hfuel
  obtain ⟨c, s, hs, -⟩ := exists_writeAt level hplain
  have hpos : 0 < (writeAt level v).chars.length := by
    rw [hs]
    simp
  obtain ⟨fuel, rfl⟩ : ∃ k, fuel = k + 1 := ⟨fuel - 1, by omega⟩
  exact h level fuel depth rest hwhole hrest hfuel

theorem readsBack_list {items : List Value} (hplain : ∀ v ∈ items, v.Plain)
    (h : ∀ v ∈ items, ReadsBack v) : ReadsBack (.list items) := by
  refine readsBack_of_succ (.list hplain) fun level fuel depth rest hwhole _ hfuel => ?_
  rw [Value.levels]
  cases items with
  | nil => cases depth <;> rfl
  | cons v vs =>
    have hopen : (writeAt level (.list (v :: vs))).chars ++ rest =
        '[' :: ((writeItems (level + 1) (v :: vs)).chars ++
          ((newLine level).chars ++ ']' :: rest)) := by
      simp [writeAt]
    have hitems : (writeItems (level + 1) (v :: vs)).isWhole = true := by
      simp only [writeAt, List.isEmpty_cons, Bool.false_eq_true, if_false, List.cons_append,
        Text.isWhole_cons, Text.isWhole_append, Bool.and_eq_true] at hwhole
      exact hwhole.1.1
    have hlen : (writeItems (level + 1) (v :: vs)).chars.length <
        (writeAt level (.list (v :: vs))).chars.length := by
      have hlength := congrArg List.length hopen
      simp only [List.length_append, List.length_cons] at hlength
      omega
    obtain ⟨c, t, hskip, hc⟩ : ∃ c t, skipSpace ((writeItems (level + 1) (v :: vs)).chars ++
        ((newLine level).chars ++ ']' :: rest)) = c :: t ∧ c ≠ ']' := by
      obtain ⟨more, hmore⟩ := exists_writeItems (level + 1) v vs
      have hv := hplain v List.mem_cons_self
      obtain ⟨c, s, hs, -, hc⟩ := exists_writeAt (level + 1) hv
      rw [hmore, Text.chars_append, Text.chars_append, List.append_assoc, List.append_assoc,
        skipSpace_writeAt _ hv, hs]
      exact ⟨c, _, rfl, hc⟩
    rw [hopen, readValue_list hskip hc, ← hskip,
      readItems_written (List.cons_ne_nil v vs) (fun x hx => ⟨hplain x hx, h x hx⟩) hitems
        (by omega)]
    by_cases hdepth : depth = 0
    · rw [if_pos hdepth, if_neg (by omega)]
    · by_cases hmore : Value.levelsOfItems (v :: vs) ≤ depth - 1
      · rw [if_neg hdepth, if_pos hmore, if_pos (by omega)]
        rfl
      · rw [if_neg hdepth, if_neg hmore, if_neg (by omega)]
        rfl

theorem readsBack_object {fields : List (Text × Value)} (names : (Metadata.names fields).Nodup)
    (hplain : ∀ f ∈ fields, f.2.Plain) (h : ∀ f ∈ fields, ReadsBack f.2) :
    ReadsBack (.object fields) := by
  refine readsBack_of_succ (.object names hplain) fun level fuel depth rest hwhole _ hfuel => ?_
  rw [Value.levels]
  cases fields with
  | nil => cases depth <;> rfl
  | cons f fs =>
    have hopen : (writeAt level (.object (f :: fs))).chars ++ rest =
        '\x7b' :: ((writeFields (level + 1) (f :: fs)).chars ++
          ((newLine level).chars ++ '\x7d' :: rest)) := by
      simp [writeAt]
    have hfields : (writeFields (level + 1) (f :: fs)).isWhole = true := by
      simp only [writeAt, List.isEmpty_cons, Bool.false_eq_true, if_false, List.cons_append,
        Text.isWhole_cons, Text.isWhole_append, Bool.and_eq_true] at hwhole
      exact hwhole.1.1
    have hlen : (writeFields (level + 1) (f :: fs)).chars.length <
        (writeAt level (.object (f :: fs))).chars.length := by
      have hlength := congrArg List.length hopen
      simp only [List.length_append, List.length_cons] at hlength
      omega
    obtain ⟨t, hskip⟩ : ∃ t, skipSpace ((writeFields (level + 1) (f :: fs)).chars ++
        ((newLine level).chars ++ '\x7d' :: rest)) = '"' :: t := by
      obtain ⟨more, hmore⟩ := exists_writeFields (level + 1) f fs
      rw [hmore, Text.chars_append, Text.chars_cons, List.append_assoc, List.cons_append,
        skipSpace_newLine _ (by decide)]
      exact ⟨_, rfl⟩
    rw [hopen, readValue_object hskip (by decide), ← hskip,
      readFields_written (List.cons_ne_nil f fs) (fun x hx => ⟨hplain x hx, h x hx⟩) hfields
        (by omega)]
    by_cases hdepth : depth = 0
    · rw [if_pos hdepth, if_neg (by omega)]
    · by_cases hmore : Value.levelsOfFields (f :: fs) ≤ depth - 1
      · rw [if_neg hdepth, if_pos hmore, if_pos (by omega)]
        have hnames : Metadata.ofList (f :: fs) = f :: fs := Metadata.ofList_of_nodup names
        simp only [Except.map, hnames]
      · rw [if_neg hdepth, if_neg hmore, if_neg (by omega)]
        rfl

theorem readsBack {v : Value} (h : v.Plain) : ReadsBack v := by
  induction h with
  | null =>
    exact readsBack_of_succ .null fun level fuel depth rest _ _ _ => rfl
  | bool b =>
    refine readsBack_of_succ (.bool b) fun level fuel depth rest _ _ _ => ?_
    cases b <;> rfl
  | @whole n digits =>
    refine readsBack_of_succ (.whole digits) fun level fuel depth rest _ hrest _ => ?_
    obtain ⟨c, s, hs, hc⟩ := exists_intChars n
    have hother : ∀ d : Char, d ≠ '-' → d.isDigit = false →
        ∀ t, Decimal.intChars n ++ rest ≠ d :: t := by
      intro d hsign hd t heq
      rw [hs, List.cons_append] at heq
      cases (List.cons.inj heq).1
      rcases hc with hc | hc
      · exact hsign hc
      · exact ne_of_isDigit hc hd rfl
    have hlevels : (Value.whole n).levels = 0 := by simp [Value.levels]
    rw [writeAt, Text.chars_ofChars, hlevels, if_pos (Nat.zero_le depth),
      readValue.eq_5 _ _ _ (hother '"' (by decide) (by decide))
        (hother '[' (by decide) (by decide)) (hother '\x7b' (by decide) (by decide)),
      readName?_intChars]
    exact readNumber_intChars digits hrest
  | text s =>
    refine readsBack_of_succ (.text s) fun level fuel depth rest hwhole hrest _ => ?_
    rw [writeAt, isWhole_writeText] at hwhole
    have hopen : (writeAt level (.text s)).chars ++ rest =
        '"' :: (s.chars.flatMap escapeChar ++ '"' :: rest) := by
      rw [writeAt, chars_writeText hwhole, List.cons_append, List.append_assoc]
      rfl
    have hlevels : (Value.text s).levels = 0 := by simp [Value.levels]
    rw [hopen, hlevels, if_pos (Nat.zero_le depth), readValue, readText_written,
      Text.isWhole_iff.mp hwhole]
    rfl
  | list hplain ih => exact readsBack_list hplain ih
  | object names hplain ih => exact readsBack_object names hplain ih

theorem writeAt_of_write {v : Value} {text : Text} (h : write v = .ok text) :
    writeAt 0 v ++ [.char '\n'] = text := by
  unfold write at h
  split at h
  · exact Except.ok.inj h
  · exact absurd h (by simp)

/-- A value that is written is read again, unless its lists and objects lie too deep in one
another. -/
theorem read_write {v : Value} {text : Text} (h : v.Plain) (hwrite : write v = .ok text)
    (hwhole : text.isWhole = true) :
    read text.toString = if v.levels ≤ depthLimit then .ok v else .error .tooDeep := by
  obtain rfl := writeAt_of_write hwrite
  rw [Text.isWhole_append, Bool.and_eq_true] at hwhole
  obtain ⟨c, s, hs, hc, -⟩ := exists_writeAt 0 h
  have hskip : skipSpace ((writeAt 0 v).chars ++ ['\n']) = (writeAt 0 v).chars ++ ['\n'] := by
    unfold skipSpace
    rw [hs, List.cons_append, List.dropWhile_cons_of_neg (by simp [hc])]
  unfold read readChars
  rw [Text.toString, String.toList_ofList, Text.chars_append, Text.chars_cons, Text.chars_nil,
    hskip, readsBack h _ _ _ _ hwhole.1 ⟨[], Or.inr rfl⟩ (by rw [List.length_append]; omega)]
  by_cases hdepth : v.levels ≤ depthLimit
  · rw [if_pos hdepth, if_pos hdepth]
    rfl
  · rw [if_neg hdepth, if_neg hdepth]

/-! ## Line ends -/

theorem carriageReturn_not_mem_escapeChar (c : Char) : '\r' ∉ escapeChar c := by
  have hdigits : ∀ n < 0x20, '\r' ∉ Text.hexDigits 4 n := by decide
  unfold escapeChar
  split
  · next h => rcases h with rfl | rfl <;> decide
  split
  · decide
  split
  · decide
  split
  · decide
  split
  · decide
  split
  · decide
  split
  · next h => simpa using hdigits c.toNat h
  · next h _ _ _ _ => simpa using fun he => h he.symm

theorem carriageReturn_not_mem_newLine (level : Nat) : .char '\r' ∉ newLine level := by
  simp [newLine]

theorem carriageReturn_not_mem_writeText (s : Text) : .char '\r' ∉ writeText s := by
  have hescaped : ∀ c ∈ s, .char '\r' ∉ escapeCodePoint c := by
    intro c _
    cases c with
    | char c => simpa [escapeCodePoint] using carriageReturn_not_mem_escapeChar c
    | half n => simp [escapeCodePoint]
  simpa [writeText] using hescaped

theorem carriageReturn_not_mem_writeItems {items : List Value} {level : Nat}
    (h : ∀ v ∈ items, .char '\r' ∉ writeAt level v) : .char '\r' ∉ writeItems level items := by
  induction items with
  | nil => simp [writeItems]
  | cons v vs ih =>
    have hv := h v List.mem_cons_self
    have hvs := ih fun w hw => h w (List.mem_cons_of_mem v hw)
    cases vs with
    | nil => simp [writeItems, carriageReturn_not_mem_newLine, hv]
    | cons w vs => simp [writeItems_cons, carriageReturn_not_mem_newLine, hv, hvs]

theorem carriageReturn_not_mem_writeFields {fields : List (Text × Value)} {level : Nat}
    (h : ∀ f ∈ fields, .char '\r' ∉ writeAt level f.2) : .char '\r' ∉ writeFields level fields := by
  induction fields with
  | nil => simp [writeFields]
  | cons f fs ih =>
    have hf := h f List.mem_cons_self
    have hfs := ih fun g hg => h g (List.mem_cons_of_mem f hg)
    cases fs with
    | nil =>
      simp [writeFields_singleton, carriageReturn_not_mem_newLine,
        carriageReturn_not_mem_writeText, hf]
    | cons g fs =>
      simp [writeFields_cons, carriageReturn_not_mem_newLine, carriageReturn_not_mem_writeText,
        hf, hfs]

/-- Line ends in a text are escaped, so that what is written has no carriage return. -/
theorem carriageReturn_not_mem_writeAt {v : Value} (h : v.Plain) (level : Nat) :
    .char '\r' ∉ writeAt level v := by
  induction h generalizing level with
  | null => rw [writeAt]; decide
  | bool b => rw [writeAt]; cases b <;> decide
  | @whole n _ =>
    have hdigit : '\r' ∉ Decimal.natChars n.natAbs := fun hmem =>
      absurd (isDigit_natChars hmem) (by decide)
    rw [writeAt, Decimal.intChars]
    split <;> simp [hdigit]
  | text s =>
    rw [writeAt]
    exact carriageReturn_not_mem_writeText s
  | @list items _ ih =>
    have hitems := carriageReturn_not_mem_writeItems fun v hv => ih v hv (level + 1)
    rw [writeAt]
    split <;> simp [hitems, carriageReturn_not_mem_newLine]
  | @object fields _ _ ih =>
    have hfields := carriageReturn_not_mem_writeFields fun f hf => ih f hf (level + 1)
    rw [writeAt]
    split <;> simp [hfields, carriageReturn_not_mem_newLine]

theorem carriageReturn_not_mem_write {v : Value} {text : Text} (h : v.Plain)
    (hwrite : write v = .ok text) (hwhole : text.isWhole = true) : '\r' ∉ text.chars := by
  rw [← Text.char_mem_ofChars, Text.isWhole_iff.mp hwhole, ← writeAt_of_write hwrite]
  simp [carriageReturn_not_mem_writeAt h 0]

end Json

end CardLogic
