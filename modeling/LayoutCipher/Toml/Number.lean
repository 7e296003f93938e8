import LayoutCipher.Text.Numeral

/-!
# Numbers of settings documents

Which words are integers and which are numbers with a fraction or an exponent.  A word is judged by
its shape: how large the number is plays no part, and neither does what stands behind the last
group of digits of an integer.
-/

namespace LayoutCipher.Toml

def isHexadecimalDigit (c : Char) : Bool :=
  (Hexadecimal.value? c).isSome

/-- The text without a sign in front. -/
def withoutSign : List Char → List Char
  | '+' :: rest => rest
  | '-' :: rest => rest
  | text => text

/-- Whether each underscore has a digit on both sides.  With `afterDigit`, the text stands behind a
digit. -/
def isPartedBetween (isDigit : Char → Bool) : (afterDigit : Bool) → List Char → Bool
  | _, [] => true
  | afterDigit, c :: rest =>
      if c = '_' then
        afterDigit && rest.head?.any isDigit && isPartedBetween isDigit false rest
      else isPartedBetween isDigit (isDigit c) rest

/-- Whether underscores part the digits of a word into groups.  The character at the front may be
a digit or a sign, but no underscore. -/
def isGrouped (isDigit : Char → Bool) : List Char → Bool
  | [] => true
  | c :: rest => c ≠ '_' && isPartedBetween isDigit true rest

/-- The digits of the base that a letter stands for. -/
def digitOfBase? : Char → Option (Char → Bool)
  | 'x' => some isHexadecimalDigit
  | 'o' => some fun c => '0' ≤ c && c ≤ '7'
  | 'b' => some fun c => c = '0' || c = '1'
  | _ => none

def isExponentLetter (c : Char) : Bool :=
  c = 'e' || c = 'E'

/-- Characters that no integer of base 10 holds, not even behind its digits: they belong to
fractions, exponents, and the times behind dates. -/
def isForeignToIntegers (c : Char) : Bool :=
  c = '.' || c = ' ' || isExponentLetter c

/-- Whether a word is an integer.  The letter of a base stands behind a zero without a sign, and its
digits may be missing.  In base 10 only zero itself opens with a zero, and all characters are digits
up to the first underscore; from there on, only the neighbours of underscores have to be digits, of
base 16 at most. -/
def isInteger (word : List Char) : Bool :=
  match word with
  | '0' :: letter :: digits =>
      match digitOfBase? letter with
      | some isDigit =>
          (digits.all fun c => isDigit c || c = '_') && isGrouped isDigit digits
      | none => false
  | _ =>
      match withoutSign word with
      | [] => false
      | '0' :: rest => rest = []
      | value =>
          match value.dropWhile Char.isDigit with
          | [] => true
          | '_' :: rest => !rest.any isForeignToIntegers && isGrouped isHexadecimalDigit word
          | _ => false

/-- Digits of base 10 and the underscores between them. -/
def isDecimalChar (c : Char) : Bool :=
  c.isDigit || c = '_'

/-- Takes the digits of a fraction or of an exponent off the front; there has to be one. -/
def skipDigits? (text : List Char) : Option (List Char) :=
  if (text.takeWhile isDecimalChar).any Char.isDigit then some (text.dropWhile isDecimalChar)
  else none

/-- Takes the digits in front of a fraction or an exponent off the front; a zero is first only where
it is the one digit. -/
def skipWhole? (text : List Char) : Option (List Char) :=
  match (text.takeWhile isDecimalChar).countP Char.isDigit with
  | 0 => none
  | 1 => some (text.dropWhile isDecimalChar)
  | _ => if text.head? = some '0' then none else some (text.dropWhile isDecimalChar)

/-- Takes a fraction off the front if there is one. -/
def skipFraction? : List Char → Option (List Char)
  | '.' :: rest => skipDigits? rest
  | text => some text

/-- Takes an exponent off the front if there is one. -/
def skipExponent? : List Char → Option (List Char)
  | [] => some []
  | c :: rest => if isExponentLetter c then skipDigits? (withoutSign rest) else some (c :: rest)

/-- Whether a word is a number of base 10 that may have a fraction and an exponent, or one of the
special numbers. -/
def isFloat (word : List Char) : Bool :=
  let value := withoutSign word
  value = ['i', 'n', 'f'] || value = ['n', 'a', 'n'] ||
    isGrouped Char.isDigit word &&
      (skipWhole? value >>= skipFraction? >>= skipExponent?) = some []

end LayoutCipher.Toml
