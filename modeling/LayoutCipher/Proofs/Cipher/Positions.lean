import LayoutCipher.Proofs.Cipher.FirstFault
import LayoutCipher.Proofs.Cipher.Reading
import Mathlib.Data.List.Forall2
import Mathlib.Data.Nat.Find

/-!
# Operations at positions

What a checked cipher says can be told position by position, without a reader: every letter `H`,
`V` and `S` stands for one operation, an `S` with the number written behind it, and nothing else
stands for any.  The first `S` whose number is no word of 64 bits is the only thing that can go
wrong once the passes have accepted.
-/

namespace LayoutCipher.Cipher

/-! ## Positions -/

/-- An operation stands at a position of a text: its letter is there, and the amount of a rotation
is the number behind the letter. -/
inductive StandsAt (text : List Char) : Nat → Operation → Prop where
  | horizontalFlip {i : Nat} (letter : text[i]? = some 'H') : StandsAt text i .horizontalFlip
  | verticalFlip {i : Nat} (letter : text[i]? = some 'V') : StandsAt text i .verticalFlip
  | rotate {i : Nat} {amount : Int64} (letter : text[i]? = some 'S')
      (number : amount.toInt = numberAt text (i + 1)) : StandsAt text i (.rotate amount)

/-- A shift operator stands at a position of a text, and the number behind it fits no word. -/
def OverflowsAt (text : List Char) (i : Nat) : Prop :=
  text[i]? = some 'S' ∧ ¬ FitsWord (numberAt text (i + 1))

instance (n : Int) : Decidable (FitsWord n) :=
  inferInstanceAs (Decidable (_ ∧ _))

instance (text : List Char) (i : Nat) : Decidable (OverflowsAt text i) :=
  inferInstanceAs (Decidable (_ ∧ _))

theorem OverflowsAt.lt_length {text : List Char} {i : Nat} (overflows : OverflowsAt text i) :
    i < text.length :=
  (List.getElem?_eq_some_iff.mp overflows.1).1

theorem StandsAt.not_overflowsAt {text : List Char} {i : Nat} {operation : Operation}
    (stands : StandsAt text i operation) : ¬ OverflowsAt text i := by
  rintro ⟨shift, tooLarge⟩
  cases stands with
  | horizontalFlip letter => simp [letter] at shift
  | verticalFlip letter => simp [letter] at shift
  | rotate _ number => exact tooLarge (number ▸ fitsWord_toInt _)

/-! ## Reading -/

variable {text rest : List Char} {position : Nat} {c : Char}

theorem value_ofFront_of_drop_eq_cons (front : text.drop position = c :: rest) :
    (Literal.ofFront rest).value = numberAt text (position + 1) := by
  rw [← Literal.value_ofFront_drop, drop_succ_of_drop_eq_cons front]

theorem say_of_overflowsAt (front : text.drop position = c :: rest)
    (placed : WellPlaced (c :: rest)) (overflows : OverflowsAt text position) :
    say position c rest = .error (.shiftAmountOutOfRange (position + 1)) := by
  obtain ⟨shift, tooLarge⟩ := overflows
  obtain rfl : c = 'S' := by simpa [getElem?_of_drop_eq_cons front] using shift
  rw [← value_ofFront_of_drop_eq_cons front] at tooLarge
  have none : (Literal.ofFront rest).amount? = none := amountOfInt?_eq_none_iff.mpr tooLarge
  rw [say_shift placed, none]

/-- Where no number is too large, a letter says the operation that stands there and any other
character says nothing. -/
theorem say_of_not_overflowsAt (front : text.drop position = c :: rest)
    (placed : WellPlaced (c :: rest)) (fits : ¬ OverflowsAt text position) :
    (isLetter c = false ∧ say position c rest = .ok none) ∨
      (isLetter c = true ∧ ∃ operation, say position c rest = .ok (some operation) ∧
        StandsAt text position operation) := by
  have here := getElem?_of_drop_eq_cons front
  have number := value_ofFront_of_drop_eq_cons front
  by_cases letter : isLetter c
  · refine .inr ⟨letter, ?_⟩
    obtain (rfl | rfl) | rfl : (c = 'H' ∨ c = 'V') ∨ c = 'S' := by
      simpa [isLetter] using letter
    · exact ⟨.horizontalFlip, rfl, .horizontalFlip here⟩
    · exact ⟨.verticalFlip, rfl, .verticalFlip here⟩
    · cases read : (Literal.ofFront rest).amount? with
      | none => exact absurd ⟨here, number ▸ amountOfInt?_eq_none_iff.mp read⟩ fits
      | some amount =>
          have same : amount.toInt = _ := Operation.amountOfInt?_eq_some_iff.mp read
          exact ⟨.rotate amount, by rw [say_shift placed, read],
            .rotate here (same.trans number)⟩
  · have silent : isLetter c = false := by simpa using letter
    exact .inl ⟨silent, say_of_not_isLetter silent position rest⟩

/-- From a position on, where no number is too large, the operations at the letters are read. -/
theorem readEach_of_not_overflowsAt (front : text.drop position = rest)
    (placed : WellPlaced rest) (fits : ∀ i, position ≤ i → ¬ OverflowsAt text i) :
    ∃ operations, readEach position rest = .ok operations ∧
      List.Forall₂ (StandsAt text) (rest.findIdxs isLetter position) operations := by
  induction placed generalizing position with
  | nil => exact ⟨[], rfl, .nil⟩
  | cons legal shift sign placed ih =>
      obtain ⟨operations, read, all⟩ :=
        ih (drop_succ_of_drop_eq_cons front) fun i le => fits i (by omega)
      rcases say_of_not_overflowsAt front (.cons legal shift sign placed) (fits position le_rfl)
        with ⟨silent, said⟩ | ⟨letter, operation, said, stands⟩
      · refine ⟨operations, ?_, by simpa [silent] using all⟩
        rw [readEach, said, read]
        rfl
      · refine ⟨operation :: operations, ?_, by simpa [letter] using ⟨stands, all⟩⟩
        rw [readEach, said, read]
        rfl

/-- From a position on, the first number that is too large is reported, one behind its letter. -/
theorem readEach_of_overflowsAt (front : text.drop position = rest) (placed : WellPlaced rest)
    {i : Nat} (le : position ≤ i) (overflows : OverflowsAt text i)
    (first : ∀ j < i, ¬ OverflowsAt text j) :
    readEach position rest = .error (.shiftAmountOutOfRange (i + 1)) := by
  induction placed generalizing position with
  | nil =>
      have ends : text.length ≤ position := List.drop_eq_nil_iff.mp front
      have inside := overflows.lt_length
      omega
  | cons legal shift sign placed ih =>
      have whole := WellPlaced.cons legal shift sign placed
      rcases Nat.eq_or_lt_of_le le with rfl | later
      · rw [readEach, say_of_overflowsAt front whole overflows]
        rfl
      · -- an earlier character says something or nothing, but it does not fail
        have failed := ih (drop_succ_of_drop_eq_cons front) later
        rcases say_of_not_overflowsAt front whole (first position later)
          with ⟨_, said⟩ | ⟨_, operation, said, _⟩ <;>
        · rw [readEach, said, failed]
          rfl

/-- Only a number that is too large keeps a well placed text from being read. -/
theorem exists_overflowsAt_of_readEach_eq_error (placed : WellPlaced text) {fault : Fault}
    (failed : readEach 0 text = .error fault) :
    ∃ i, OverflowsAt text i ∧ fault = .shiftAmountOutOfRange (i + 1) := by
  by_cases overflow : ∃ i, OverflowsAt text i
  · -- the least such position is the one that is reported
    have overflows := Nat.find_spec overflow
    have first := readEach_of_overflowsAt (List.drop_zero ..) placed (Nat.zero_le _) overflows
      fun j => Nat.find_min overflow
    exact ⟨_, overflows, Except.error.inj (failed.symm.trans first)⟩
  · obtain ⟨operations, read, _⟩ := readEach_of_not_overflowsAt (List.drop_zero ..) placed
      fun i _ overflows => overflow ⟨i, overflows⟩
    rw [read] at failed
    cases failed

/-! ## Ciphers -/

/-- A cipher that the passes refuse is refused with the same fault.  Any other is read position by
position: its operations are those at its letters, in order, or the first number that fits no word
is reported. -/
theorem outcome_parse_positionwise (cipher : String) :
    (∀ fault, ((parse cipher).outcome = .error fault ∧
        ∀ position, fault ≠ .shiftAmountOutOfRange position) ↔
      (validate cipher).outcome = .error fault) ∧
    ((validate cipher).outcome = .ok () →
      ((∀ i < cipher.toList.length, ¬ OverflowsAt cipher.toList i) →
        ∃ operations, (parse cipher).outcome = .ok operations ∧
          List.Forall₂ (StandsAt cipher.toList) (cipher.toList.findIdxs isLetter) operations) ∧
      ∀ i, OverflowsAt cipher.toList i → (∀ j < i, ¬ OverflowsAt cipher.toList j) →
        (parse cipher).outcome = .error (.shiftAmountOutOfRange (i + 1))) := by
  rw [outcome_validate]
  cases checked : check cipher with
  | error fault =>
      rw [outcome_parse_of_error checked]
      refine ⟨fun other => ⟨?_, ?_⟩, nofun⟩
      · rintro ⟨⟨⟩, _⟩
        rfl
      · rintro ⟨⟩
        refine ⟨rfl, ?_⟩
        rintro position rfl
        exact checkChars_ne_outOfRange cipher.toList position checked
  | ok _ =>
      have placed : WellPlaced cipher.toList := (checkChars_eq_ok_iff.mp checked).2.1
      rw [outcome_parse_of_ok checked]
      refine ⟨fun fault => ⟨?_, nofun⟩, fun _ => ⟨?_, ?_⟩⟩
      · rintro ⟨failed, other⟩
        obtain ⟨i, _, rfl⟩ := exists_overflowsAt_of_readEach_eq_error placed failed
        exact absurd rfl (other _)
      · intro fits
        exact readEach_of_not_overflowsAt (List.drop_zero ..) placed
          fun i _ overflows => fits i overflows.lt_length overflows
      · intro i overflows first
        exact readEach_of_overflowsAt (List.drop_zero ..) placed i.zero_le overflows first

/-- `HV-2S8` has three operations, at its letters; of `S007S9223372036854775808S-9223372036854775809`
the second number is the first that fits no word. -/
theorem outcome_parse_positionwise_mixed :
    (∃ operations, (parse "HV-2S8").outcome = .ok operations ∧
      List.Forall₂ (StandsAt "HV-2S8".toList) [0, 1, 4] operations) ∧
    (parse "S007S9223372036854775808S-9223372036854775809").outcome =
      .error (.shiftAmountOutOfRange 5) := by
  constructor
  · have checked : (validate "HV-2S8").outcome = .ok () := by decide +kernel
    exact ((outcome_parse_positionwise "HV-2S8").2 checked).1 (by decide +kernel)
  · have checked : (validate "S007S9223372036854775808S-9223372036854775809").outcome = .ok () := by
      decide +kernel
    exact ((outcome_parse_positionwise _).2 checked).2 4 (by decide +kernel) (by decide +kernel)

end LayoutCipher.Cipher
