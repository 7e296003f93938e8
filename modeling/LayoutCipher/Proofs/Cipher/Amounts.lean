import LayoutCipher.Cipher.Amount
import LayoutCipher.Proofs.Cipher.Passes
import Mathlib.Algebra.Ring.Int.Defs
import Mathlib.Data.List.TakeWhile

/-!
# Amounts at positions

`numberAt` says by positions which number is written in a text: an optional sign and the longest
run of digits.  Literals read at the front of a rest denote that number, do not depend on what
follows their last digit, and give back every integer from its decimal text.  `EndsInAmount` tells
the texts whose last number grows when digits follow.
-/

namespace LayoutCipher

namespace Cipher

/-! ## Numbers -/

section

variable {text rest : List Char} {position : Nat} {c : Char}

theorem getElem?_of_drop_eq_cons (front : text.drop position = c :: rest) :
    text[position]? = some c := by
  rw [← List.head?_drop, front, List.head?_cons]

theorem drop_succ_of_drop_eq_cons (front : text.drop position = c :: rest) :
    text.drop (position + 1) = rest := by
  rw [← List.tail_drop, front, List.tail_cons]

end

def FitsWord (n : Int) : Prop :=
  -2 ^ 63 ≤ n ∧ n ≤ 2 ^ 63 - 1

/-- The longest run of digits from a position of a text on. -/
def digitsAt (text : List Char) (start : Nat) : List Char :=
  (text.drop start).takeWhile Char.isDigit

/-- The number that is written from a position of a text on: an optional sign and the longest run
of digits. -/
def numberAt (text : List Char) (start : Nat) : Int :=
  if text[start]? = some '-' then -(Decimal.value (digitsAt text (start + 1)) : Int)
  else Decimal.value (digitsAt text start)

/-- How many characters the sign at a position takes. -/
def signWidth (text : List Char) (start : Nat) : Nat :=
  if text[start]? = some '-' then 1 else 0

theorem amountOfInt?_eq_none_iff {n : Int} :
    Operation.amountOfInt? n = none ↔ ¬ FitsWord n := by
  simp only [Operation.amountOfInt?, FitsWord, ite_eq_right_iff, reduceCtorEq, imp_false]
  rfl

theorem fitsWord_toInt (amount : Int64) : FitsWord amount.toInt :=
  ⟨amount.le_toInt, Int.le_of_lt_add_one amount.toInt_lt⟩

/-! ## Amounts at the end -/

/-- Whether a text is digits from end to end, with a sign before them or without. -/
def isAmount : List Char → Bool
  | '-' :: rest => rest.all Char.isDigit
  | text => text.all Char.isDigit

/-- The digits at the end of a text, with a sign before them or without, stand right behind a shift
operator. -/
def EndsInAmount (text : List Char) : Prop :=
  ∃ before amount, text = before ++ 'S' :: amount ∧ isAmount amount

theorem not_endsInAmount_nil : ¬ EndsInAmount [] := by
  rintro ⟨before, amount, ends, _⟩
  simp at ends

theorem endsInAmount_cons {c : Char} {rest : List Char} :
    EndsInAmount (c :: rest) ↔ (c = 'S' ∧ isAmount rest) ∨ EndsInAmount rest := by
  constructor
  · rintro ⟨before, amount, ends, all⟩
    cases before with
    | nil =>
        obtain ⟨rfl, rfl⟩ : c = 'S' ∧ rest = amount := by simpa using ends
        exact .inl ⟨rfl, all⟩
    | cons other before =>
        obtain ⟨rfl, rfl⟩ : c = other ∧ rest = before ++ 'S' :: amount := by simpa using ends
        exact .inr ⟨before, amount, rfl, all⟩
  · rintro (⟨rfl, all⟩ | ⟨before, amount, rfl, all⟩)
    · exact ⟨[], rest, rfl, all⟩
    · exact ⟨c :: before, amount, rfl, all⟩

instance EndsInAmount.decidable : ∀ text, Decidable (EndsInAmount text)
  | [] => .isFalse not_endsInAmount_nil
  | _ :: rest =>
      have := EndsInAmount.decidable rest
      decidable_of_iff' _ endsInAmount_cons

/-! ## Literals -/

namespace Literal

def chars (literal : Literal) : List Char :=
  if literal.negative then '-' :: literal.digits else literal.digits

theorem length_chars (literal : Literal) : literal.chars.length = literal.length := by
  cases negative : literal.negative <;> simp [chars, length, negative, Nat.add_comm]

theorem ofFront_sign (rest : List Char) :
    ofFront ('-' :: rest) = ⟨true, rest.takeWhile Char.isDigit⟩ :=
  rfl

theorem ofFront_of_head?_ne {text : List Char} (unsigned : text.head? ≠ some '-') :
    ofFront text = ⟨false, text.takeWhile Char.isDigit⟩ := by
  unfold ofFront
  split
  · simp at unsigned
  · rfl

theorem isAmount_of_head?_ne {text : List Char} (unsigned : text.head? ≠ some '-') :
    isAmount text = text.all Char.isDigit := by
  unfold isAmount
  split
  · simp at unsigned
  · rfl

theorem isDigit_of_mem_digits {text : List Char} {c : Char} (mem : c ∈ (ofFront text).digits) :
    c.isDigit := by
  by_cases signed : text.head? = some '-'
  · obtain ⟨rest, rfl⟩ := List.head?_eq_some_iff.mp signed
    exact List.all_eq_true.mp List.all_takeWhile c mem
  · rw [ofFront_of_head?_ne signed] at mem
    exact List.all_eq_true.mp List.all_takeWhile c mem

theorem chars_append_drop (text : List Char) :
    (ofFront text).chars ++ text.drop (ofFront text).length = text := by
  rw [← length_chars]
  by_cases signed : text.head? = some '-'
  · obtain ⟨rest, rfl⟩ := List.head?_eq_some_iff.mp signed
    simpa [ofFront_sign, chars] using
      List.prefix_iff_eq_append.mp (rest.takeWhile_prefix Char.isDigit)
  · rw [ofFront_of_head?_ne signed]
    exact List.prefix_iff_eq_append.mp (text.takeWhile_prefix Char.isDigit)

theorem take_length_ofFront (text : List Char) :
    text.take (ofFront text).length = (ofFront text).chars := by
  have front := congrArg (List.take (ofFront text).chars.length) (chars_append_drop text)
  rw [List.take_left, length_chars] at front
  exact front.symm

theorem length_ofFront_le (text : List Char) : (ofFront text).length ≤ text.length := by
  rw [← length_chars, ← take_length_ofFront]
  exact List.length_take_le' _ text

/-- Behind a shift operator that is well placed there are digits. -/
theorem digits_ne_nil {rest : List Char} (placed : WellPlaced ('S' :: rest)) :
    (ofFront rest).digits ≠ [] := by
  cases placed with
  | cons _ shift _ placed =>
      cases placed with
      | nil => cases shift rfl
      | @cons c after _ _ sign _ =>
          -- the digit stands at once behind the letter, or behind the sign that follows it
          by_cases isSign : c = '-'
          · subst isSign
            cases after with
            | nil => cases sign rfl
            | cons d _ =>
                have digit : d.isDigit := sign rfl
                simp [ofFront_sign, digit]
          · have digit : c.isDigit := by simpa [startsWithAmount, isSign] using shift rfl
            rw [ofFront_of_head?_ne (by simpa using isSign)]
            simp [digit]

/-- The literal at a position by its sign and its digits. -/
theorem ofFront_drop (text : List Char) (start : Nat) :
    ofFront (text.drop start) =
      ⟨text[start]? = some '-', digitsAt text (start + signWidth text start)⟩ := by
  by_cases signed : text[start]? = some '-'
  · obtain ⟨rest, front⟩ := List.head?_eq_some_iff.mp (List.head?_drop ▸ signed)
    simp [signWidth, signed, digitsAt, drop_succ_of_drop_eq_cons front, front, ofFront_sign]
  · rw [ofFront_of_head?_ne (List.head?_drop ▸ signed)]
    simp [signWidth, signed, digitsAt]

theorem length_ofFront_drop (text : List Char) (start : Nat) :
    (ofFront (text.drop start)).length =
      signWidth text start + (digitsAt text (start + signWidth text start)).length := by
  simp [ofFront_drop, length, signWidth]

theorem value_ofFront_drop (text : List Char) (start : Nat) :
    (ofFront (text.drop start)).value = numberAt text start := by
  rw [ofFront_drop, value, numberAt, signWidth]
  by_cases signed : text[start]? = some '-' <;> simp [signed]

theorem takeWhile_isDigit_append {first second : List Char}
    (stop : startsWithDigit second = false ∨ first.all Char.isDigit = false) :
    (first ++ second).takeWhile Char.isDigit = first.takeWhile Char.isDigit := by
  induction first with
  | nil =>
      cases second with
      | nil => rfl
      | cons c rest =>
          have noDigit : c.isDigit = false := by simpa [startsWithDigit] using stop
          simp [noDigit]
  | cons c rest ih =>
      cases digit : c.isDigit with
      | false => simp [digit]
      | true =>
          have later := ih (by simpa [digit] using stop)
          simp only [List.cons_append, List.takeWhile_cons, digit, if_true, later]

/-- A literal does not change when the text goes on, unless it reaches the end of the text and
digits follow. -/
theorem ofFront_append {first second : List Char} (nonempty : first ≠ [])
    (stop : startsWithDigit second = false ∨ isAmount first = false) :
    ofFront (first ++ second) = ofFront first := by
  cases first with
  | nil => exact absurd rfl nonempty
  | cons c rest =>
      by_cases isSign : c = '-'
      · subst isSign
        have stop : startsWithDigit second = false ∨ rest.all Char.isDigit = false := stop
        rw [List.cons_append, ofFront_sign, ofFront_sign, takeWhile_isDigit_append stop]
      · have unsigned : ∀ text, (c :: text).head? ≠ some '-' := by simpa using isSign
        rw [isAmount_of_head?_ne (unsigned rest)] at stop
        rw [List.cons_append, ofFront_of_head?_ne (unsigned _), ofFront_of_head?_ne (unsigned _),
          ← List.cons_append, takeWhile_isDigit_append stop]

theorem ofFront_digits {digits : List Char} (all : ∀ c ∈ digits, c.isDigit) :
    ofFront digits = ⟨false, digits⟩ := by
  have unsigned : digits.head? ≠ some '-' := by
    intro signed
    cases all '-' (List.mem_of_head? signed)
  rw [ofFront_of_head?_ne unsigned, List.takeWhile_eq_self_iff.mpr all]

theorem ofFront_chars (text : List Char) : ofFront (ofFront text).chars = ofFront text := by
  have all : ∀ c ∈ (ofFront text).digits, c.isDigit := fun _ => isDigit_of_mem_digits
  generalize ofFront text = literal at all
  obtain ⟨negative, digits⟩ := literal
  cases negative with
  | false => exact ofFront_digits all
  | true =>
      have whole := List.takeWhile_eq_self_iff.mpr all
      simpa [chars, ofFront_sign] using whole

/-- The decimal text of an integer is one literal. -/
theorem ofFront_ofInt (n : Int) :
    ofFront (Decimal.ofInt n) = ⟨n < 0, Decimal.ofNat n.natAbs⟩ := by
  have all : ∀ c ∈ Decimal.ofNat n.natAbs, c.isDigit := fun _ => Decimal.isDigit_of_mem_ofNat
  by_cases negative : n < 0
  · rw [Decimal.ofInt, if_pos negative, ofFront_sign, List.takeWhile_eq_self_iff.mpr all,
      decide_eq_true negative]
  · rw [Decimal.ofInt, if_neg negative, ofFront_digits all, decide_eq_false negative]

theorem chars_ofFront_ofInt (n : Int) : (ofFront (Decimal.ofInt n)).chars = Decimal.ofInt n := by
  rw [ofFront_ofInt]
  by_cases negative : n < 0 <;> simp [chars, Decimal.ofInt, negative]

theorem value_ofFront_ofInt (n : Int) : (ofFront (Decimal.ofInt n)).value = n := by
  rw [ofFront_ofInt]
  by_cases negative : n < 0
  · simp only [value, Decimal.value_ofNat, negative, decide_true, if_true]
    omega
  · simp only [value, Decimal.value_ofNat, negative, decide_false, Bool.false_eq_true, if_false]
    omega

end Literal

/-- Behind a shift operator that is well placed an amount is read, or it is too large. -/
theorem readAmount_of_wellPlaced {rest : List Char} (placed : WellPlaced ('S' :: rest))
    (position : Nat) :
    readAmount ⟨position, rest⟩ =
      match (Literal.ofFront rest).amount? with
      | some amount =>
          .ok (amount, Cursor.advance ⟨position, rest⟩ (Literal.ofFront rest).length)
      | none => .error (.shiftAmountOutOfRange position) :=
  if_neg (Literal.digits_ne_nil placed)

end Cipher

end LayoutCipher
