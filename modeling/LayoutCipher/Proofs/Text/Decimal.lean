import LayoutCipher.Text.Numeral

/-!
# Canonical decimal text

Of all the runs of digits that denote a number, the one without leading zeros is what is written
for it.  So a number is never written longer than it was read, and what is written for an integer
can be told by its sign and its first digit.
-/

namespace LayoutCipher.Decimal

/-! ## Digits -/

section

variable {digits rest : List Char} {c : Char}

theorem exists_digitChar_of_isDigit (digit : c.isDigit) : ∃ n < 10, c = Nat.digitChar n := by
  have bounds : 48 ≤ c.toNat ∧ c.toNat ≤ 57 := Char.isDigit_iff_toNat.mp digit
  have small : c.toNat - 48 < 10 := by omega
  refine ⟨c.toNat - 48, small, Char.toNat_inj.mp ?_⟩
  rw [Nat.toNat_digitChar_of_lt_ten small]
  omega

/-- Digits behind a number that is not zero are written behind it. -/
theorem toDigits_ofDigitChars (all : ∀ d ∈ digits, d.isDigit) {n : Nat} (pos : 0 < n) :
    Nat.toDigits 10 (Nat.ofDigitChars 10 digits n) = Nat.toDigits 10 n ++ digits := by
  induction digits generalizing n with
  | nil => simp
  | cons c rest ih =>
      obtain ⟨first, later⟩ := List.forall_mem_cons.mp all
      obtain ⟨digit, digit_lt, rfl⟩ := exists_digitChar_of_isDigit first
      rw [Nat.ofDigitChars_cons_digitChar_of_lt_ten digit_lt, ih later (by omega),
        ← Nat.toDigits_append_toDigits (by decide) pos digit_lt,
        Nat.toDigits_of_lt_base digit_lt, List.append_assoc, List.singleton_append]

theorem ofNat_value (nonzero : c ≠ '0') (all : ∀ d ∈ c :: rest, d.isDigit) :
    ofNat (value (c :: rest)) = c :: rest := by
  obtain ⟨first, later⟩ := List.forall_mem_cons.mp all
  obtain ⟨digit, digit_lt, rfl⟩ := exists_digitChar_of_isDigit first
  have pos : 0 < digit := by
    refine Nat.pos_of_ne_zero ?_
    rintro rfl
    exact nonzero rfl
  rw [ofNat, value, Nat.ofDigitChars_cons_digitChar_of_lt_ten digit_lt, Nat.mul_zero,
    Nat.zero_add, toDigits_ofDigitChars later pos, Nat.toDigits_of_lt_base digit_lt]
  rfl

theorem value_pos (nonzero : c ≠ '0') (all : ∀ d ∈ c :: rest, d.isDigit) :
    0 < value (c :: rest) := by
  refine Nat.pos_of_ne_zero fun zero => nonzero ?_
  have written := ofNat_value nonzero all
  rw [zero] at written
  exact (List.cons.inj written).1.symm

/-- Leading zeros are all that gets lost when a number is read and written again. -/
theorem ofNat_value_sublist (nonempty : digits ≠ []) (all : ∀ d ∈ digits, d.isDigit) :
    (ofNat (value digits)).Sublist digits := by
  induction digits with
  | nil => exact absurd rfl nonempty
  | cons c rest ih =>
      by_cases zero : c = '0'
      · subst zero
        by_cases last : rest = []
        · subst last
          exact List.Sublist.refl _
        · exact (ih last (List.forall_mem_cons.mp all).2).cons '0'
      · simp only [ofNat_value zero all, List.Sublist.refl]

theorem ofInt_natCast (n : Nat) : ofInt n = ofNat n := by
  rw [ofInt, if_neg (by omega), Int.natAbs_natCast]

theorem ofInt_neg_natCast {n : Nat} (pos : 0 < n) : ofInt (-n) = '-' :: ofNat n := by
  rw [ofInt, if_pos (by omega), Int.natAbs_neg, Int.natAbs_natCast]

theorem ofNat_injective : Function.Injective ofNat :=
  Function.LeftInverse.injective value_ofNat

theorem not_mem_ofNat (n : Nat) (other : c.isDigit = false) : c ∉ ofNat n := by
  intro mem
  simp [isDigit_of_mem_ofNat mem] at other

theorem not_mem_ofInt (n : Int) (other : c.isDigit = false) (unsigned : c ≠ '-') :
    c ∉ ofInt n := by
  rw [ofInt]
  split
  · exact List.not_mem_cons_of_ne_of_not_mem unsigned (not_mem_ofNat _ other)
  · exact not_mem_ofNat _ other

theorem minus_mem_ofInt_iff (n : Int) : '-' ∈ ofInt n ↔ n < 0 := by
  rw [ofInt]
  split
  · simp [*]
  · simp [*, not_mem_ofNat _ (c := '-') rfl]

/-- A number can be told from its text. -/
theorem ofInt_injective : Function.Injective ofInt := by
  intro m n same
  have signs : m < 0 ↔ n < 0 := by rw [← minus_mem_ofInt_iff, ← minus_mem_ofInt_iff, same]
  by_cases negative : m < 0
  · rw [ofInt, ofInt, if_pos negative, if_pos (signs.mp negative)] at same
    have magnitudes := ofNat_injective (List.cons.inj same).2
    have := signs.mp negative
    omega
  · have positive := fun n_neg => negative (signs.mpr n_neg)
    rw [ofInt, ofInt, if_neg negative, if_neg positive] at same
    have magnitudes := ofNat_injective same
    omega

end

/-! ## Integers -/

/-- The canonical text of an integer: a zero, or digits that do not open with one, with a negative
sign or without. -/
inductive Canonical : List Char → Prop where
  | zero : Canonical ['0']
  | positive {c : Char} {rest : List Char} (nonzero : c ≠ '0')
      (all : ∀ d ∈ c :: rest, d.isDigit) : Canonical (c :: rest)
  | negative {c : Char} {rest : List Char} (nonzero : c ≠ '0')
      (all : ∀ d ∈ c :: rest, d.isDigit) : Canonical ('-' :: c :: rest)

theorem canonical_ofInt (n : Int) : Canonical (ofInt n) := by
  obtain ⟨c, rest, written⟩ := List.exists_cons_of_ne_nil (ofNat_ne_nil n.natAbs)
  have all : ∀ d ∈ c :: rest, d.isDigit := fun d mem => isDigit_of_mem_ofNat (written ▸ mem)
  have nonzero (n_ne : n ≠ 0) : c ≠ '0' := by
    have head := head?_ofNat_ne_zero (Int.natAbs_ne_zero.mpr n_ne)
    rw [written] at head
    simpa using head
  rw [ofInt, written]
  split
  · exact .negative (nonzero (by omega)) all
  · by_cases zero : n = 0
    · subst zero
      rw [← written]
      exact .zero
    · exact .positive (nonzero zero) all

/-- Exactly the canonical texts are written for integers. -/
theorem canonical_iff {text : List Char} : Canonical text ↔ ∃ n, text = ofInt n := by
  constructor
  · intro canonical
    cases canonical with
    | zero => exact ⟨0, rfl⟩
    | positive nonzero all => exact ⟨_, (ofNat_value nonzero all).symm.trans (ofInt_natCast _).symm⟩
    | @negative c rest nonzero all =>
        refine ⟨-(value (c :: rest) : Int), ?_⟩
        rw [ofInt_neg_natCast (value_pos nonzero all), ofNat_value nonzero all]
  · rintro ⟨n, rfl⟩
    exact canonical_ofInt n

end LayoutCipher.Decimal
