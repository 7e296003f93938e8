import LayoutCipher.Proofs.Cipher.Reading
import LayoutCipher.Retype

/-!
# Reading what operations display

The cipher text of an operation needs no separator: a letter opens it, and an amount ends where
the next letter begins.  So the texts of a list of operations, put side by side, pass the checks
and are read as that list.
-/

namespace LayoutCipher.Cipher

open Operation (render applyAll)

theorem startsWithDigit_ofNat (n : Nat) : startsWithDigit (Decimal.ofNat n) := by
  cases digits : Decimal.ofNat n with
  | nil => exact absurd digits (Decimal.ofNat_ne_nil n)
  | cons c rest =>
      have mem : c ∈ Decimal.ofNat n := digits ▸ List.mem_cons_self
      exact Decimal.isDigit_of_mem_ofNat mem

theorem wellPlaced_ofNat (n : Nat) : WellPlaced (Decimal.ofNat n) :=
  .of_digits fun _ => Decimal.isDigit_of_mem_ofNat

theorem wellPlaced_chars (operation : Operation) : WellPlaced operation.chars := by
  cases operation with
  | horizontalFlip => exact .cons rfl nofun nofun .nil
  | verticalFlip => exact .cons rfl nofun nofun .nil
  | rotate amount =>
      have digits := startsWithDigit_ofNat amount.toInt.natAbs
      have placed := wellPlaced_ofNat amount.toInt.natAbs
      -- behind the letter stands a sign and then a digit, or a digit at once
      simp only [Operation.chars, Decimal.ofInt]
      split
      · exact .shift_cons rfl (.sign_cons digits placed)
      · exact .shift_cons (startsWithAmount_of_startsWithDigit digits) placed

theorem wellPlaced_flatMap_chars (operations : List Operation) :
    WellPlaced (operations.flatMap Operation.chars) := by
  induction operations with
  | nil => exact .nil
  | cons operation rest ih => exact (wellPlaced_chars operation).append ih

theorem startsWithDigit_flatMap_chars (operations : List Operation) :
    startsWithDigit (operations.flatMap Operation.chars) = false := by
  cases operations with
  | nil => rfl
  | cons operation rest => cases operation <;> rfl

theorem isLetter_of_mem_ofInt {n : Int} {c : Char} (mem : c ∈ Decimal.ofInt n) :
    isLetter c = false := by
  rw [← Literal.chars_ofFront_ofInt] at mem
  exact isLetter_of_mem_chars mem

/-- The cipher text of an operation says that operation alone. -/
theorem readEach_chars (operation : Operation) (position : Nat) :
    readEach position operation.chars = .ok [operation] := by
  cases operation with
  | horizontalFlip => rfl
  | verticalFlip => rfl
  | rotate amount =>
      have placed := wellPlaced_chars (.rotate amount)
      have read : (Literal.ofFront (Decimal.ofInt amount.toInt)).amount? = some amount :=
        Operation.amountOfInt?_eq_some_iff.mpr (Literal.value_ofFront_ofInt _).symm
      have silent : readEach (position + 1) (Decimal.ofInt amount.toInt) = .ok [] := by
        rw [← List.append_nil (Decimal.ofInt amount.toInt),
          readEach_append_of_not_isLetter fun _ => isLetter_of_mem_ofInt]
        rfl
      rw [Operation.chars, readEach, say_shift placed, read, silent]
      rfl

theorem readEach_flatMap_chars (operations : List Operation) (position : Nat) :
    readEach position (operations.flatMap Operation.chars) = .ok operations := by
  induction operations generalizing position with
  | nil => rfl
  | cons operation rest ih =>
      -- the next text opens with a letter, so the amount of this one ends where it was written
      rw [List.flatMap_cons, readEach_append (wellPlaced_chars operation)
        (wellPlaced_flatMap_chars rest) (.inl (startsWithDigit_flatMap_chars rest)),
        readEach_chars, ih]
      rfl

theorem check_render {operations : List Operation} (nonempty : operations ≠ []) :
    check (render operations) = .ok () := by
  rw [check, render, String.toList_ofList, checkChars_eq_ok_iff]
  refine ⟨?_, wellPlaced_flatMap_chars operations, ?_⟩
  all_goals
    cases operations with
    | nil => exact absurd rfl nonempty
    | cons operation rest => cases operation <;> simp [Operation.chars]

theorem outcome_parse_render_of_ne_nil {operations : List Operation}
    (nonempty : operations ≠ []) : (parse (render operations)).outcome = .ok operations := by
  rw [outcome_parse_of_ok (check_render nonempty), render, String.toList_ofList,
    readEach_flatMap_chars]

/-- The rendered text of any operations passes the checks, is read as these operations, and
transforms every grid as they do. -/
theorem outcome_parse_render {operations : List Operation} (nonempty : operations ≠ []) :
    (validate (render operations)).outcome = .ok () ∧
      (parse (render operations)).outcome = .ok operations ∧
      ∀ {α : Type} (g : Grid α),
        (g.transform (render operations)).outcome = .ok (applyAll operations g) := by
  have checked := check_render nonempty
  have parsed := outcome_parse_render_of_ne_nil nonempty
  exact ⟨(outcome_validate _).trans checked, parsed, fun g => g.outcome_transform_of_ok parsed⟩

/-- The least amount keeps apart from the letters and amounts at its sides. -/
theorem outcome_parse_render_least :
    render [.rotate 0, .rotate Int64.minValue, .horizontalFlip, .rotate Int64.maxValue] =
        "S0S-9223372036854775808HS9223372036854775807" ∧
      (parse "S0S-9223372036854775808HS9223372036854775807").outcome =
        .ok [.rotate 0, .rotate Int64.minValue, .horizontalFlip, .rotate Int64.maxValue] := by
  have shown : render [.rotate 0, .rotate Int64.minValue, .horizontalFlip,
      .rotate Int64.maxValue] = "S0S-9223372036854775808HS9223372036854775807" := by
    decide +kernel
  exact ⟨shown, shown ▸ (outcome_parse_render (List.cons_ne_nil _ _)).2.1⟩

end LayoutCipher.Cipher
