/-!
# Faults of ciphers and inputs

What can be wrong with a cipher or with an input, where, and how it is reported.  Positions
count characters from 0.
-/

namespace LayoutCipher

/-- The reason why a cipher or an input is refused. -/
inductive Fault where
  | emptyCipher
  | illegalCharacter (position : Nat) (character : Char)
  | danglingShiftOperator (position : Nat)
  | misplacedNegativeSign (position : Nat)
  | negativeSignNotBeforeDigit (position : Nat)
  | shiftAmountOutOfRange (position : Nat)
  | emptyInput
  | characterNotOnGrid (position : Nat) (character : Char)
  deriving DecidableEq, Repr

namespace Fault

def message : Fault → String
  | .emptyCipher => "Cipher cannot be empty"
  | .illegalCharacter position character =>
      s!"Unsupported cipher character '{character}' found at position {position}"
  | .danglingShiftOperator position =>
      s!"Invalid shift operator found at position {position}. " ++
        "A shift operator should always be followed by either a number or a negative sign"
  | .misplacedNegativeSign position =>
      "Negative sign found at the first or last position of the cipher " ++
        s!"(position {position})"
  | .negativeSignNotBeforeDigit position =>
      s!"Invalid negative sign found at position {position}. " ++
        "A negative sign should only appear immediately before a number"
  | .shiftAmountOutOfRange position =>
      s!"Shift amount starting at position {position} is out of range"
  | .emptyInput => "Input cannot be empty"
  | .characterNotOnGrid position character =>
      s!"Input character '{character}' at position {position} is not on the layout"

def code : Fault → Nat
  | .emptyCipher => 7001
  | .illegalCharacter .. => 7002
  | .danglingShiftOperator .. => 7003
  | .misplacedNegativeSign .. => 7004
  | .negativeSignNotBeforeDigit .. => 7005
  | .shiftAmountOutOfRange .. => 7006
  | .emptyInput => 7007
  | .characterNotOnGrid .. => 7008

end Fault

end LayoutCipher
