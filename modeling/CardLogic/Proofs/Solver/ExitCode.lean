import CardLogic.Solver.Run
import Mathlib.Data.Int.Bitwise

/-!
What exit codes say, and what the end of a run is taken for.

An exit code is any integer, its bits those of the endless two's complement.  A condition holds
when all its bits are set, and all of them are among the lowest eight (`holds_iff`), so codes with
the same lowest byte say the same.  `codes_and_ends` says which codes are a success and which
conditions the others fail by, and, for every end of a run, what it is taken for and which errors
are logged.
-/

namespace CardLogic.Solver

/-- All bits of a condition are set in a code. -/
def Condition.SetIn (c : Condition) (code : Int) : Prop :=
  ∀ i, c.bits.testBit i = true → code.testBit i = true

namespace ExitCode

variable {code : Int} {c : Condition}

/-! ## Bits -/

theorem testBit_low (code : Int) {i : Nat} (hi : i < 8) :
    (low code).testBit i = code.testBit i := by
  cases code with
  | ofNat n =>
    have hlow : low (.ofNat n) = n % 2 ^ 8 := by
      unfold low
      simp only [Int.ofNat_eq_natCast]
      omega
    rw [hlow, Nat.testBit_mod_two_pow, decide_eq_true hi, Bool.true_and]
    rfl
  | negSucc n =>
    have hlow : low (.negSucc n) = 2 ^ 8 - (n % 2 ^ 8 + 1) := by
      unfold low
      rw [Int.negSucc_emod n (by decide)]
      omega
    rw [hlow, Nat.testBit_two_pow_sub_succ (Nat.mod_lt n (by decide)), Nat.testBit_mod_two_pow,
      decide_eq_true hi, Bool.true_and, Bool.true_and]
    rfl

theorem lt_eight_of_testBit_bits {i : Nat} (h : c.bits.testBit i = true) : i < 8 := by
  have hbits : c.bits < 2 ^ 8 := by cases c <;> decide
  by_contra hi
  have hle : 2 ^ 8 ≤ 2 ^ i := Nat.pow_le_pow_right (by decide) (by omega)
  rw [Nat.testBit_lt_two_pow (by omega)] at h
  exact absurd h (by decide)

theorem and_eq_right_iff {m n : Nat} :
    m &&& n = n ↔ ∀ i, n.testBit i = true → m.testBit i = true := by
  constructor
  · intro heq i hi
    have hand := congrArg (Nat.testBit · i) heq
    simpa only [Nat.testBit_land, hi, Bool.and_true] using hand
  · intro h
    refine Nat.eq_of_testBit_eq fun i => ?_
    rw [Nat.testBit_land]
    cases hi : n.testBit i with
    | false => exact Bool.and_false _
    | true => rw [h i hi, Bool.and_true]

/-- A condition holds if all its bits are set; the unknown one, which has none, never holds. -/
theorem holds_iff : holds code c = true ↔ c ≠ .unknown ∧ c.SetIn code := by
  have hbits : low code &&& c.bits = c.bits ↔ c.SetIn code := by
    rw [and_eq_right_iff]
    refine forall₂_congr fun i hi => ?_
    rw [testBit_low code (lt_eight_of_testBit_bits hi)]
  simp only [holds, Bool.and_eq_true, decide_eq_true_eq, beq_iff_eq, hbits]

theorem setIn_iff : c.SetIn code ↔
    ∀ i ∈ (List.range 8).filter c.bits.testBit, code.testBit i = true := by
  simp only [List.mem_filter, List.mem_range, Condition.SetIn]
  exact ⟨fun h i hi => h i hi.2, fun h i hi => h i ⟨lt_eight_of_testBit_bits hi, hi⟩⟩

instance (c : Condition) (code : Int) : Decidable (c.SetIn code) :=
  decidable_of_iff _ setIn_iff.symm

theorem setIn_iff_of_bits {bits : List Nat} (h : (List.range 8).filter c.bits.testBit = bits) :
    c.SetIn code ↔ ∀ i ∈ bits, code.testBit i = true := by
  rw [setIn_iff, h]

/-! ## Codes -/

/-- A success has the bits of a search that found a solution and went over everything, and not all
bits of a failure. -/
theorem isSuccess_iff : isSuccess code = true ↔
    (∀ i, 1 ≤ i → i ≤ 4 → code.testBit i = true) ∧
      ¬ (code.testBit 0 = true ∧ code.testBit 6 = true) := by
  have hholds : isSuccess code = true ↔ (Condition.satisfiable.SetIn code ∧
      Condition.exhausted.SetIn code) ∧ ¬ Condition.failed.SetIn code := by
    simp only [isSuccess, Bool.and_eq_true, Bool.not_eq_true', ← Bool.not_eq_true, holds_iff]
    simp
  have hsatisfiable : Condition.satisfiable.SetIn code ↔ ∀ i ∈ [1, 3], code.testBit i = true :=
    setIn_iff_of_bits (by decide)
  have hexhausted : Condition.exhausted.SetIn code ↔ ∀ i ∈ [2, 4], code.testBit i = true :=
    setIn_iff_of_bits (by decide)
  have hfailed : Condition.failed.SetIn code ↔ ∀ i ∈ [0, 6], code.testBit i = true :=
    setIn_iff_of_bits (by decide)
  rw [hholds, hsatisfiable, hexhausted, hfailed]
  refine and_congr ⟨fun hbits i hlow hhigh => ?_, fun hbits => ?_⟩ (not_congr (by simp))
  · by_cases hi : i ∈ [1, 3]
    · exact hbits.1 i hi
    · refine hbits.2 i ?_
      simp only [List.mem_cons, List.not_mem_nil, or_false] at hi ⊢
      omega
  · refine ⟨fun i hi => hbits i ?_ ?_, fun i hi => hbits i ?_ ?_⟩
    all_goals
      simp only [List.mem_cons, List.not_mem_nil, or_false] at hi
      omega

/-- The failures all of whose bits are set in a code. -/
def told (code : Int) : List Condition :=
  [Condition.failed, .interrupted, .outOfMemory, .notRun].filter fun c => c.SetIn code

theorem filter_failures (code : Int) : Condition.failures.filter (holds code) = told code := by
  refine List.filter_congr fun c hc => ?_
  have hne : c ≠ .unknown := by
    rintro rfl
    exact absurd hc (by decide)
  rw [Bool.eq_iff_iff, holds_iff, decide_eq_true_eq]
  exact and_iff_right hne

theorem failing_of_not_success (h : isSuccess code = false) :
    failing code = if told code = [] then [.unknown] else told code := by
  rw [failing, h, filter_failures, if_neg Bool.false_ne_true]
  cases told code with
  | nil => rfl
  | cons c cs => rfl

theorem failing_eq_nil_iff : failing code = [] ↔ isSuccess code = true := by
  unfold failing
  split
  · next h => simp [h]
  · next h =>
    split
    · next hnone => simp [h]
    · next hsome => exact iff_of_false hsome h

theorem low_add (code k : Int) : low (code + 256 * k) = low code := by
  unfold low
  rw [Int.add_mul_emod_self_left]

theorem holds_congr {other : Int} (h : low other = low code) : holds other = holds code := by
  funext c
  rw [holds, holds, h]

theorem isSuccess_congr {other : Int} (h : low other = low code) :
    isSuccess other = isSuccess code := by
  rw [isSuccess, isSuccess, holds_congr h]

theorem failing_congr {other : Int} (h : low other = low code) : failing other = failing code := by
  rw [failing, failing, isSuccess_congr h, holds_congr h]

end ExitCode

/-- What a code says: whether it is a success, and which conditions it fails by.  Bits above the
lowest eight say nothing. -/
structure CodeSays (code : Int) : Prop where
  success : ExitCode.isSuccess code = true ↔
    (∀ i, 1 ≤ i → i ≤ 4 → code.testBit i = true) ∧
      ¬ (code.testBit 0 = true ∧ code.testBit 6 = true)
  noneFails : ExitCode.failing code = [] ↔ ExitCode.isSuccess code = true
  fails : ExitCode.isSuccess code = false → ExitCode.failing code =
    if ExitCode.told code = [] then [.unknown] else ExitCode.told code
  byLowBits : ∀ k, ExitCode.isSuccess (code + 256 * k) = ExitCode.isSuccess code ∧
    ExitCode.failing (code + 256 * k) = ExitCode.failing code

theorem codeSays (code : Int) : CodeSays code where
  success := ExitCode.isSuccess_iff
  noneFails := ExitCode.failing_eq_nil_iff
  fails := ExitCode.failing_of_not_success
  byLowBits k := ⟨ExitCode.isSuccess_congr (ExitCode.low_add code k),
    ExitCode.failing_congr (ExitCode.low_add code k)⟩

/-! ## Ends of runs -/

def HasText (s : Option Text) : Prop := ∃ text, s = some text ∧ text ≠ []

/-- The errors among the records of a log. -/
def errorsOf (log : List LogRecord) : List LogRecord := log.filter (·.level = .error)

/-- What the end of a run is taken for.  Output is an answer.  Complaints without output and with a
code other than zero are a refusal, and the log names the signal that ended the run or the
conditions that the code fails by.  Anything else means that there is no solver. -/
structure EndsAs (output errors : Option Text) (code : Option Int) : Prop where
  answered : (classify output errors code).1.code = 200 ↔ HasText output
  refused : (classify output errors code).1.code = 400 ↔
    ¬ HasText output ∧ HasText errors ∧ ∃ n, code = some n ∧ n ≠ 0
  unanswered : (classify output errors code).1.code = 500 ↔
    ¬ HasText output ∧ ¬ (HasText errors ∧ ∃ n, code = some n ∧ n ≠ 0)
  signal : ∀ n < 0, code = some n → (classify output errors code).1.code = 400 →
    errorsOf (classify output errors code).2 =
      [⟨.error, "Proces clingo zakończony sygnałem " ++ Decimal.showInt (-n)⟩]
  conditions : ∀ n ≥ 0, code = some n → (classify output errors code).1.code = 400 →
    errorsOf (classify output errors code).2 = (ExitCode.failing n).map fun c =>
      ⟨.error, c.description ++ " (kod wyjścia clingo: " ++ Decimal.showInt n ++ ")"⟩
  silent : ∀ n, code = some n → (classify output errors code).1.code = 400 →
    errorsOf (classify output errors code).2 = [] → ExitCode.isSuccess n = true

variable {output errors : Option Text} {code : Option Int}

theorem hasText_iff {s : Option Text} : hasText s = true ↔ HasText s := by
  unfold hasText HasText
  cases s <;> simp

theorem getD_ne_zero_iff : code.getD 0 ≠ 0 ↔ ∃ n, code = some n ∧ n ≠ 0 := by
  cases code <;> simp

theorem code_classify (output errors : Option Text) (code : Option Int) :
    (classify output errors code).1.code =
      if hasText output = true then 200
      else if hasText errors = true ∧ code.getD 0 ≠ 0 then 400 else 500 := by
  unfold classify
  split
  · rfl
  · split <;> rfl

/-- Every complaint is an error. -/
theorem errorsOf_complaints (n : Int) : errorsOf (complaints n) = complaints n := by
  refine List.filter_eq_self.mpr fun r hr => ?_
  unfold complaints at hr
  split at hr
  · rw [List.mem_singleton.mp hr]
    rfl
  · obtain ⟨c, -, rfl⟩ := List.mem_map.mp hr
    rfl

/-- The errors that are logged with a refusal are the complaints of the code. -/
theorem errorsOf_classify (h : (classify output errors code).1.code = 400) :
    errorsOf (classify output errors code).2 = complaints (code.getD 0) := by
  unfold classify at h ⊢
  by_cases houtput : hasText output = true
  · rw [if_pos houtput] at h
    exact absurd h (by simp [Outcome.code])
  · rw [if_neg houtput] at h ⊢
    by_cases hrefused : hasText errors = true ∧ code.getD 0 ≠ 0
    · rw [if_pos hrefused]
      exact errorsOf_complaints (code.getD 0)
    · rw [if_neg hrefused] at h
      exact absurd h (by simp [Outcome.code])

theorem complaints_of_neg {n : Int} (hn : n < 0) : complaints n =
    [⟨.error, "Proces clingo zakończony sygnałem " ++ Decimal.showInt (-n)⟩] := if_pos hn

theorem complaints_of_nonneg {n : Int} (hn : n ≥ 0) : complaints n =
    (ExitCode.failing n).map fun c =>
      ⟨.error, c.description ++ " (kod wyjścia clingo: " ++ Decimal.showInt n ++ ")"⟩ :=
  if_neg (by omega)

theorem endsAs (output errors : Option Text) (code : Option Int) :
    EndsAs output errors code := by
  refine ⟨?answered, ?refused, ?unanswered, ?signal, ?conditions, ?silent⟩
  case answered =>
    rw [code_classify, ← hasText_iff]
    split_ifs with houtput hrefused <;> simp [houtput]
  case refused =>
    rw [code_classify, ← hasText_iff, ← hasText_iff, ← getD_ne_zero_iff]
    split_ifs with houtput hrefused
    · exact iff_of_false (by decide) fun h => h.1 houtput
    · exact iff_of_true rfl ⟨houtput, hrefused⟩
    · exact iff_of_false (by decide) fun h => hrefused h.2
  case unanswered =>
    rw [code_classify, ← hasText_iff, ← hasText_iff, ← getD_ne_zero_iff]
    split_ifs with houtput hrefused
    · exact iff_of_false (by decide) fun h => h.1 houtput
    · exact iff_of_false (by decide) fun h => h.2 hrefused
    · exact iff_of_true rfl ⟨houtput, hrefused⟩
  case signal =>
    rintro n hn rfl h
    rw [errorsOf_classify h]
    exact complaints_of_neg hn
  case conditions =>
    rintro n hn rfl h
    rw [errorsOf_classify h]
    exact complaints_of_nonneg hn
  case silent =>
    rintro n rfl h hnone
    rw [errorsOf_classify h, Option.getD_some] at hnone
    by_cases hn : n < 0
    · rw [complaints_of_neg hn] at hnone
      exact absurd hnone (by simp)
    · rw [complaints_of_nonneg (by omega), List.map_eq_nil_iff] at hnone
      exact ExitCode.failing_eq_nil_iff.mp hnone

/-- What every code says, and what every end of a run is taken for. -/
theorem codes_and_ends : (∀ code, CodeSays code) ∧
    ∀ output errors code, EndsAs output errors code :=
  ⟨codeSays, endsAs⟩

/-- A search that found everything is a success although it was interrupted; a failure is told
with every condition whose bits it has. -/
example : ExitCode.isSuccess 31 = true ∧
    ExitCode.failing (-31) = [.failed, .interrupted, .outOfMemory, .notRun] := by decide

end CardLogic.Solver
