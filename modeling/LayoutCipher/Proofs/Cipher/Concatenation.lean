import LayoutCipher.Proofs.Cipher.Reading
import Mathlib.Data.List.Basic

/-!
# Ciphers one behind the other

Two ciphers that can be read are read one after the other when they are put together, with one
exception at the seam: digits that open the second cipher would become part of an amount that ends
the first.
-/

namespace LayoutCipher.Cipher

variable {text rest : List Char} {c : Char} {position : Nat}

/-! ## Positions do not matter -/

theorem say_eq_ok_of_eq_ok {said : Option Operation} (placed : WellPlaced (c :: rest))
    (read : say position c rest = .ok said) (other : Nat) : say other c rest = .ok said := by
  by_cases shift : c = 'S'
  · subst shift
    rw [say_shift placed] at read ⊢
    cases amount : (Literal.ofFront rest).amount? with
    | none => simp [amount] at read
    | some amount' => simpa [amount] using read
  · obtain ⟨always, turned⟩ := turn_of_ne_shift shift
    rw [say, turned] at read ⊢
    exact read

/-- A position shows only in a fault: what can be read in one place is read the same in any. -/
theorem readEach_eq_ok_of_eq_ok {operations : List Operation} (placed : WellPlaced text)
    (read : readEach position text = .ok operations) (other : Nat) :
    readEach other text = .ok operations := by
  induction placed generalizing position other operations with
  | nil => exact read
  | @cons c rest legal shift sign placed ih =>
      rw [readEach] at read ⊢
      cases said : say position c rest with
      | error fault => simp [said, bind, Except.bind] at read
      | ok operation =>
          rw [say_eq_ok_of_eq_ok (.cons legal shift sign placed) said]
          cases behind : readEach (position + 1) rest with
          | error fault => simp [said, behind, bind, Except.bind] at read
          | ok operations' =>
              rw [ih behind]
              simpa [said, behind] using read

/-! ## Ciphers -/

theorem check_append {first second : String} (checked : check first = .ok ())
    (checked' : check second = .ok ()) : check (first ++ second) = .ok () := by
  obtain ⟨nonempty, left, head⟩ := checkChars_eq_ok_iff.mp checked
  obtain ⟨_, right, _⟩ := checkChars_eq_ok_iff.mp checked'
  rw [check, checkChars_eq_ok_iff, String.toList_append, List.head?_append_of_ne_nil _ nonempty]
  exact ⟨List.append_ne_nil_of_left_ne_nil nonempty _, left.append right, head⟩

theorem outcome_parse_append {first second : String} {earlier later : List Operation}
    (parsed : (parse first).outcome = .ok earlier) (parsed' : (parse second).outcome = .ok later)
    (seam : startsWithDigit second.toList = false ∨ ¬ EndsInAmount first.toList) :
    (parse (first ++ second)).outcome = .ok (earlier ++ later) := by
  have checked := check_of_outcome_parse_eq_ok parsed
  have checked' := check_of_outcome_parse_eq_ok parsed'
  have left : WellPlaced first.toList := (checkChars_eq_ok_iff.mp checked).2.1
  have right : WellPlaced second.toList := (checkChars_eq_ok_iff.mp checked').2.1
  rw [outcome_parse_of_ok checked] at parsed
  rw [outcome_parse_of_ok checked'] at parsed'
  -- the second cipher is read behind the first, so its positions are not those it has alone
  have moved := readEach_eq_ok_of_eq_ok right parsed' (0 + first.toList.length)
  rw [outcome_parse_of_ok (check_append checked checked'), String.toList_append,
    readEach_append left right seam, parsed, moved]
  rfl

end LayoutCipher.Cipher
