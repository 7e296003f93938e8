import LayoutCipher.Fault
import LayoutCipher.Operation.Basic

/-!
# Shift amounts

A shift amount is an optional negative sign and a run of digits, read as far as it goes.  Leading
zeros are allowed; the number has to fit into a signed word of 64 bits.
-/

namespace LayoutCipher.Cipher

/-- A place in a text: how many characters have been read, and those that have not. -/
structure Cursor where
  position : Nat
  rest : List Char
  deriving DecidableEq

/-- The cursor at a position of a text; behind the end of the text nothing is left to read. -/
def Cursor.ofPosition (text : List Char) (position : Nat) : Cursor :=
  ⟨position, text.drop position⟩

/-- The cursor behind the next `count` characters. -/
def Cursor.advance (cursor : Cursor) (count : Nat) : Cursor :=
  ⟨cursor.position + count, cursor.rest.drop count⟩

/-- A written amount: whether it has a negative sign, and its digits. -/
structure Literal where
  negative : Bool
  digits : List Char
  deriving DecidableEq

namespace Literal

/-- The longest literal at the front of a text.  It has no digits where none is written. -/
def ofFront : List Char → Literal
  | '-' :: rest => ⟨true, rest.takeWhile Char.isDigit⟩
  | text => ⟨false, text.takeWhile Char.isDigit⟩

def length (literal : Literal) : Nat :=
  (if literal.negative then 1 else 0) + literal.digits.length

def value (literal : Literal) : Int :=
  if literal.negative then -(Decimal.value literal.digits : Int)
  else Decimal.value literal.digits

/-- The number of a literal as a signed word of 64 bits, if it fits. -/
def amount? (literal : Literal) : Option Int64 :=
  Operation.amountOfInt? literal.value

end Literal

/-- Reads an amount at the cursor: the amount and the cursor behind it.  Without digits the shift
operator just before the cursor is to blame. -/
def readAmount (cursor : Cursor) : Except Fault (Int64 × Cursor) :=
  let literal := Literal.ofFront cursor.rest
  if literal.digits = [] then .error (.danglingShiftOperator (cursor.position - 1))
  else
    match literal.amount? with
    | some amount => .ok (amount, cursor.advance literal.length)
    | none => .error (.shiftAmountOutOfRange cursor.position)

/-- Reads an amount at a position of a text: the amount and the position behind it. -/
def scanAmount (text : List Char) (start : Nat) : Except Fault (Int64 × Nat) := do
  let (amount, after) ← readAmount (Cursor.ofPosition text start)
  return (amount, after.position)

theorem readAmount_eq_ok_iff {cursor after : Cursor} {amount : Int64} :
    readAmount cursor = .ok (amount, after) ↔
      (Literal.ofFront cursor.rest).digits ≠ [] ∧
        (Literal.ofFront cursor.rest).amount? = some amount ∧
        cursor.advance (Literal.ofFront cursor.rest).length = after := by
  simp only [readAmount]
  split
  · next empty => simp [empty]
  · next nonempty => cases (Literal.ofFront cursor.rest).amount? <;> simp [nonempty]

theorem readAmount_rest_length_le {cursor after : Cursor} {amount : Int64}
    (read : readAmount cursor = .ok (amount, after)) :
    after.rest.length ≤ cursor.rest.length := by
  obtain ⟨_, _, rfl⟩ := readAmount_eq_ok_iff.mp read
  simp [Cursor.advance]

end LayoutCipher.Cipher
