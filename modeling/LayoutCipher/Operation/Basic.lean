import LayoutCipher.Text.Numeral

/-!
# Operations

An operation permutes the columns or the rows of a grid.  Its text is the cipher that stands for
it: a letter, and for a rotation the decimal amount.
-/

namespace LayoutCipher

/-- A single transformation of a grid. -/
inductive Operation where
  /-- Turns every row around. -/
  | horizontalFlip
  /-- Turns the order of the rows around. -/
  | verticalFlip
  /-- Shifts the columns circularly, by a positive amount to the right. -/
  | rotate (amount : Int64)
  deriving DecidableEq

namespace Operation

/-- A number as the amount of a rotation: a signed word of 64 bits, if it fits. -/
def amountOfInt? (n : Int) : Option Int64 :=
  if Int64.minValue.toInt ≤ n ∧ n ≤ Int64.maxValue.toInt then some (Int64.ofInt n) else none

theorem amountOfInt?_eq_some_iff {n : Int} {amount : Int64} :
    amountOfInt? n = some amount ↔ amount.toInt = n := by
  unfold amountOfInt?
  constructor
  · intro fits
    split at fits
    · next bounds =>
        obtain rfl : Int64.ofInt n = amount := by simpa using fits
        refine Int64.toInt_ofInt_of_le ?_ ?_
        · exact bounds.1
        · exact Int.lt_add_one_iff.mpr bounds.2
    · cases fits
  · rintro rfl
    have least := Int64.le_toInt amount
    have greatest := Int64.toInt_lt amount
    rw [if_pos ⟨least, Int.le_of_lt_add_one greatest⟩, Int64.ofInt_toInt]

/-- The cipher text of an operation, as characters. -/
def chars : Operation → List Char
  | .horizontalFlip => ['H']
  | .verticalFlip => ['V']
  | .rotate amount => 'S' :: Decimal.ofInt amount.toInt

def text (operation : Operation) : String :=
  String.ofList operation.chars

def description : Operation → String
  | .horizontalFlip => "horizontal flip"
  | .verticalFlip => "vertical flip"
  | .rotate amount => "rotate columns by " ++ String.ofList (Decimal.ofInt amount.toInt)

/-- The cipher that stands for a list of operations. -/
def render (operations : List Operation) : String :=
  String.ofList (operations.flatMap chars)

end Operation

end LayoutCipher
