import LayoutCipher.Fault

/-!
# Checking ciphers

A cipher is checked in three passes, and the first failure is reported:

1. it is not empty and holds legal characters only;
2. every `S` stands before a digit or a negative sign;
3. no negative sign starts or ends the cipher, and each stands before a digit.
-/

namespace LayoutCipher.Cipher

/-- Whether a character may appear in a cipher at all. -/
def isCipherCharacter (c : Char) : Bool :=
  c = 'H' || c = 'V' || c = 'S' || c = '-' || c.isDigit

/-- The least position from which the rest of the text satisfies `p`. -/
def firstSuffix? (p : List Char → Bool) : List Char → Option Nat
  | [] => none
  | c :: rest => if p (c :: rest) then some 0 else (firstSuffix? p rest).map (· + 1)

def startsWithDigit : List Char → Bool
  | c :: _ => c.isDigit
  | [] => false

/-- Whether a text opens with a digit or a negative sign. -/
def startsWithAmount : List Char → Bool
  | c :: _ => c.isDigit || c = '-'
  | [] => false

/-- Whether a text opens with a shift operator that no amount follows. -/
def isDanglingShift : List Char → Bool
  | c :: rest => c = 'S' && !startsWithAmount rest
  | [] => false

/-- Whether a text opens with a negative sign that no digit follows. -/
def isStraySign : List Char → Bool
  | c :: rest => c = '-' && !startsWithDigit rest
  | [] => false

/-- First pass: there are characters, and all of them are legal. -/
def checkCharacters (cipher : List Char) : Except Fault Unit :=
  if cipher = [] then .error .emptyCipher
  else
    match cipher.zipIdx.find? fun (c, _) => !isCipherCharacter c with
    | some (c, position) => .error (.illegalCharacter position c)
    | none => .ok ()

/-- Second pass: every shift operator has an amount. -/
def checkShiftOperators (cipher : List Char) : Except Fault Unit :=
  match firstSuffix? isDanglingShift cipher with
  | some position => .error (.danglingShiftOperator position)
  | none => .ok ()

/-- Third pass: every negative sign stands inside the cipher and before a digit. -/
def checkNegativeSigns (cipher : List Char) : Except Fault Unit :=
  if cipher.head? = some '-' then .error (.misplacedNegativeSign 0)
  else if cipher.getLast? = some '-' then
    .error (.misplacedNegativeSign (cipher.length - 1))
  else
    match firstSuffix? isStraySign cipher with
    | some position => .error (.negativeSignNotBeforeDigit position)
    | none => .ok ()

/-- The three passes, in order. -/
def checkChars (cipher : List Char) : Except Fault Unit := do
  checkCharacters cipher
  checkShiftOperators cipher
  checkNegativeSigns cipher

/-- Refuses a cipher with the first fault of the three passes. -/
def check (cipher : String) : Except Fault Unit :=
  checkChars cipher.toList

end LayoutCipher.Cipher
