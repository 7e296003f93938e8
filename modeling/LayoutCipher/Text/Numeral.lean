/-!
# Numerals

The decimal digits of natural numbers and integers, the digits of base 16, and the numbers that
runs of digits denote.
-/

namespace LayoutCipher.Decimal

/-- The decimal digits of `n`, most significant first, without leading zeros. -/
def ofNat (n : Nat) : List Char :=
  Nat.toDigits 10 n

/-- The decimal text of `n`: a `-` in front of the digits of a negative number. -/
def ofInt (n : Int) : List Char :=
  if n < 0 then '-' :: ofNat n.natAbs else ofNat n.natAbs

/-- The number that a run of decimal digits denotes. -/
def value (digits : List Char) : Nat :=
  Nat.ofDigitChars 10 digits 0

/-- The digits of `n`, filled up with zeros on the left to `width` characters. -/
def padded (width n : Nat) : List Char :=
  (ofNat n).leftpad width '0'

theorem value_ofNat (n : Nat) : value (ofNat n) = n :=
  Nat.ofDigitChars_toDigits (by decide) (by decide)

theorem isDigit_of_mem_ofNat {n : Nat} {c : Char} (mem : c ∈ ofNat n) : c.isDigit :=
  Nat.isDigit_of_mem_toDigits (by decide) (by decide) mem

theorem ofNat_ne_nil (n : Nat) : ofNat n ≠ [] :=
  Nat.toDigits_ne_nil

/-- Only the number zero is written with a zero first. -/
theorem head?_ofNat_ne_zero {n : Nat} (nonzero : n ≠ 0) : (ofNat n).head? ≠ some '0' := by
  induction n using Nat.strongRecOn with
  | _ n ih =>
      by_cases small : n < 10
      · have digits : ∀ m < 10, m ≠ 0 → (ofNat m).head? ≠ some '0' := by decide
        exact digits n small nonzero
      · have split : ofNat n = ofNat (n / 10) ++ [Nat.digitChar (n % 10)] :=
          Nat.toDigits_of_base_le (by decide) (Nat.le_of_not_lt small)
        have first := ih (n / 10) (by omega) (by omega)
        obtain ⟨c, rest, front⟩ := List.exists_cons_of_ne_nil (ofNat_ne_nil (n / 10))
        rw [front] at first
        rw [split, front]
        exact first

end LayoutCipher.Decimal

namespace LayoutCipher.Hexadecimal

def digit (n : Nat) : Char :=
  Nat.digitChar n

def value? (c : Char) : Option Nat :=
  if c.isDigit then some (c.toNat - '0'.toNat)
  else if 'a' ≤ c ∧ c ≤ 'f' then some (c.toNat - 'a'.toNat + 10)
  else if 'A' ≤ c ∧ c ≤ 'F' then some (c.toNat - 'A'.toNat + 10)
  else none

/-- The number that digits of base 16 denote. -/
def number? (digits : List Char) : Option Nat :=
  digits.foldlM (fun number c => (value? c).map (number * 16 + ·)) 0

end LayoutCipher.Hexadecimal
