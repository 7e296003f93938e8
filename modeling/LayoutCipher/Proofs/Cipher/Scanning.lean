import LayoutCipher.Proofs.Cipher.Amounts
import Mathlib.Algebra.BigOperators.Group.Finset.Basic

/-!
# Scanning amounts

An amount can be read from any position of a text, also from one behind its end.  `Scans` says what
comes of it without a reader: by the sign at the position, by the digits that stand at the positions
after it, and by the sum of these digits, each times a power of ten.
-/

namespace LayoutCipher.Cipher

/-! ## Runs of digits -/

/-- Digits stand at `count` positions of a text from `start` on, and none stands behind them. -/
structure DigitRun (text : List Char) (start count : Nat) : Prop where
  digits : ∀ i < count, ∃ c, text[start + i]? = some c ∧ c.isDigit
  ends : ∀ c, text[start + count]? = some c → ¬ c.isDigit

/-- The digit that the character at a position stands for. -/
def digitAt (text : List Char) (i : Nat) : Nat :=
  (text.getD i '0').toNat - '0'.toNat

/-- The number that `count` digits from a position on denote. -/
def decimalAt (text : List Char) (start count : Nat) : Nat :=
  ∑ i ∈ Finset.range count, digitAt text (start + i) * 10 ^ (count - 1 - i)

variable {text : List Char} {start count : Nat} {c : Char}

theorem digitsAt_of_digit (here : text[start]? = some c) (digit : c.isDigit) :
    digitsAt text start = c :: digitsAt text (start + 1) := by
  obtain ⟨inside, rfl⟩ := List.getElem?_eq_some_iff.mp here
  rw [digitsAt, List.drop_eq_getElem_cons inside, List.takeWhile_cons_of_pos digit]
  rfl

theorem digitsAt_of_noDigit (noDigit : ∀ c, text[start]? = some c → ¬ c.isDigit) :
    digitsAt text start = [] := by
  rw [digitsAt]
  cases front : text.drop start with
  | nil => rfl
  | cons c rest => simp [noDigit c (getElem?_of_drop_eq_cons front)]

theorem digitRun_zero_iff :
    DigitRun text start 0 ↔ ∀ c, text[start]? = some c → ¬ c.isDigit :=
  ⟨fun run => run.ends, fun ends => ⟨by simp, ends⟩⟩

theorem digitRun_succ_iff :
    DigitRun text start (count + 1) ↔
      (∃ c, text[start]? = some c ∧ c.isDigit) ∧ DigitRun text (start + 1) count := by
  have shift (i : Nat) : start + (i + 1) = start + 1 + i := by omega
  constructor
  · rintro ⟨digits, ends⟩
    refine ⟨digits 0 (by omega), fun i less => ?_, shift count ▸ ends⟩
    rw [← shift i]
    exact digits (i + 1) (by omega)
  · rintro ⟨first, digits, ends⟩
    refine ⟨fun i less => ?_, shift count ▸ ends⟩
    cases i with
    | zero => exact first
    | succ i =>
        rw [shift i]
        exact digits i (by omega)

theorem decimalAt_succ :
    decimalAt text start (count + 1) =
      digitAt text start * 10 ^ count + decimalAt text (start + 1) count := by
  rw [decimalAt, Finset.sum_range_succ', Nat.add_comm]
  refine congrArg (_ + ·) (Finset.sum_congr rfl fun i _ => ?_)
  have place : start + (i + 1) = start + 1 + i := by omega
  have power : count + 1 - 1 - (i + 1) = count - 1 - i := by omega
  rw [place, power]

theorem DigitRun.length_eq (run : DigitRun text start count) :
    (digitsAt text start).length = count := by
  induction count generalizing start with
  | zero => rw [digitsAt_of_noDigit (digitRun_zero_iff.mp run), List.length_nil]
  | succ count ih =>
      obtain ⟨⟨c, here, digit⟩, later⟩ := digitRun_succ_iff.mp run
      rw [digitsAt_of_digit here digit, List.length_cons, ih later]

/-- Reading digit by digit, each time ten times what has been read, comes to the sum over the
positions. -/
theorem DigitRun.value_eq (run : DigitRun text start count) :
    Decimal.value (digitsAt text start) = decimalAt text start count := by
  induction count generalizing start with
  | zero =>
      rw [digitsAt_of_noDigit (digitRun_zero_iff.mp run)]
      rfl
  | succ count ih =>
      obtain ⟨⟨c, here, digit⟩, later⟩ := digitRun_succ_iff.mp run
      have first : digitAt text start = c.toNat - '0'.toNat := by
        simp [digitAt, List.getD_eq_getElem?_getD, here]
      rw [digitsAt_of_digit here digit, decimalAt_succ, ← ih later, first, Decimal.value,
        Nat.ofDigitChars_cons, Nat.ofDigitChars_eq_ofDigitChars_zero, later.length_eq,
        Nat.mul_zero, Nat.zero_add, Nat.mul_comm]
      rfl

/-- From every position on there is a run of digits, of length zero where none stands. -/
theorem exists_digitRun (text : List Char) (start : Nat) : ∃ count, DigitRun text start count := by
  generalize read : digitsAt text start = digits
  induction digits generalizing start with
  | nil =>
      refine ⟨0, digitRun_zero_iff.mpr fun c here digit => ?_⟩
      simp [digitsAt_of_digit here digit] at read
  | cons d rest ih =>
      by_cases first : ∃ c, text[start]? = some c ∧ c.isDigit
      · obtain ⟨c, here, digit⟩ := first
        rw [digitsAt_of_digit here digit] at read
        obtain ⟨count, later⟩ := ih (start + 1) (List.cons.inj read).2
        exact ⟨count + 1, digitRun_succ_iff.mpr ⟨⟨c, here, digit⟩, later⟩⟩
      · rw [digitsAt_of_noDigit fun c here digit => first ⟨c, here, digit⟩] at read
        cases read

/-! ## Amounts -/

/-- The number that an optional sign and `count` digits behind it denote. -/
def signedAt (text : List Char) (start count : Nat) : Int :=
  let number := decimalAt text (start + signWidth text start) count
  if text[start]? = some '-' then -(number : Int) else number

/-- What scanning a text from a position on comes to.  Without digits the character in front of the
position is to blame. -/
inductive Scans (text : List Char) (start : Nat) : Except Fault (Int64 × Nat) → Prop where
  | dangling (run : DigitRun text (start + signWidth text start) 0) :
      Scans text start (.error (.danglingShiftOperator (start - 1)))
  | amount {count : Nat} {amount : Int64}
      (run : DigitRun text (start + signWidth text start) count) (pos : 0 < count)
      (number : amount.toInt = signedAt text start count) :
      Scans text start (.ok (amount, start + signWidth text start + count))
  | outOfRange {count : Nat} (run : DigitRun text (start + signWidth text start) count)
      (pos : 0 < count) (tooLarge : ¬ FitsWord (signedAt text start count)) :
      Scans text start (.error (.shiftAmountOutOfRange start))

theorem value_ofFront_drop_of_run (run : DigitRun text (start + signWidth text start) count) :
    (Literal.ofFront (text.drop start)).value = signedAt text start count := by
  simp [Literal.ofFront_drop, Literal.value, run.value_eq, signedAt]

theorem digits_ofFront_drop_eq_nil_iff (run : DigitRun text (start + signWidth text start) count) :
    (Literal.ofFront (text.drop start)).digits = [] ↔ count = 0 := by
  rw [Literal.ofFront_drop, ← List.length_eq_zero_iff, run.length_eq]

theorem Scans.scanAmount_eq {result : Except Fault (Int64 × Nat)}
    (scans : Scans text start result) : scanAmount text start = result := by
  cases scans with
  | dangling run =>
      have empty := (digits_ofFront_drop_eq_nil_iff run).mpr rfl
      simp [scanAmount, readAmount, Cursor.ofPosition, empty]
  | @amount count amount run pos number =>
      have nonempty := mt (digits_ofFront_drop_eq_nil_iff run).mp (Nat.ne_of_gt pos)
      have fits : (Literal.ofFront (text.drop start)).amount? = some amount := by
        rw [Literal.amount?, value_ofFront_drop_of_run run]
        exact Operation.amountOfInt?_eq_some_iff.mpr number
      have read : readAmount (Cursor.ofPosition text start) = .ok _ :=
        readAmount_eq_ok_iff.mpr ⟨nonempty, fits, rfl⟩
      rw [scanAmount, read]
      simp [Cursor.advance, Cursor.ofPosition, Literal.length_ofFront_drop, run.length_eq,
        Nat.add_assoc]
  | outOfRange run pos tooLarge =>
      have nonempty := mt (digits_ofFront_drop_eq_nil_iff run).mp (Nat.ne_of_gt pos)
      have unfit : (Literal.ofFront (text.drop start)).amount? = none := by
        rw [Literal.amount?, value_ofFront_drop_of_run run]
        exact amountOfInt?_eq_none_iff.mpr tooLarge
      simp [scanAmount, readAmount, Cursor.ofPosition, nonempty, unfit]

theorem exists_scans (text : List Char) (start : Nat) : ∃ result, Scans text start result := by
  obtain ⟨count, run⟩ := exists_digitRun text (start + signWidth text start)
  rcases Nat.eq_zero_or_pos count with rfl | pos
  · exact ⟨_, .dangling run⟩
  · cases fits : Operation.amountOfInt? (signedAt text start count) with
    | none => exact ⟨_, .outOfRange run pos (amountOfInt?_eq_none_iff.mp fits)⟩
    | some amount => exact ⟨_, .amount run pos (Operation.amountOfInt?_eq_some_iff.mp fits)⟩

/-- A run of digits ends within the text. -/
theorem DigitRun.le_length (run : DigitRun text start count) (pos : 0 < count) :
    start + count ≤ text.length := by
  obtain ⟨c, last, _⟩ := run.digits (count - 1) (by omega)
  have inside := (List.getElem?_eq_some_iff.mp last).1
  omega

/-- Scanning is exact from every position of every text.  A number that has been read ends behind
its start, within the text, and before the first character that is no digit. -/
theorem scanAmount_eq_iff_scans (text : List Char) (start : Nat) :
    (∀ result, scanAmount text start = result ↔ Scans text start result) ∧
    ∀ amount next, scanAmount text start = .ok (amount, next) →
      start < next ∧ next ≤ text.length ∧ ∀ c, text[next]? = some c → ¬ c.isDigit := by
  have exact (result) : scanAmount text start = result ↔ Scans text start result := by
    refine ⟨?_, Scans.scanAmount_eq⟩
    rintro rfl
    obtain ⟨result, scans⟩ := exists_scans text start
    rwa [scans.scanAmount_eq]
  refine ⟨exact, fun amount next read => ?_⟩
  cases (exact _).mp read with
  | amount run pos number =>
      exact ⟨by omega, run.le_length pos, run.ends⟩

/-- The least word is read behind zeros, and the number that is one greater than the greatest word
is refused; behind the end of the text no digit stands. -/
theorem scanAmount_eq_iff_scans_least :
    Scans "S-009223372036854775808-1".toList 1 (.ok (-9223372036854775808, 23)) ∧
      (1 < 23 ∧ 23 ≤ "S-009223372036854775808-1".toList.length ∧ ¬ '-'.isDigit) ∧
      Scans "HS0009223372036854775808".toList 2 (.error (.shiftAmountOutOfRange 2)) ∧
      Scans "S1".toList 1000 (.error (.danglingShiftOperator 999)) := by
  have read : scanAmount "S-009223372036854775808-1".toList 1 =
      .ok (-9223372036854775808, 23) := by decide +kernel
  obtain ⟨exact, ends⟩ := scanAmount_eq_iff_scans "S-009223372036854775808-1".toList 1
  obtain ⟨less, le, stops⟩ := ends _ _ read
  refine ⟨(exact _).mp read, ⟨less, le, stops '-' rfl⟩, ?_, ?_⟩
  · exact ((scanAmount_eq_iff_scans _ 2).1 _).mp (by decide +kernel)
  · exact ((scanAmount_eq_iff_scans _ 1000).1 _).mp (by decide +kernel)

end LayoutCipher.Cipher
