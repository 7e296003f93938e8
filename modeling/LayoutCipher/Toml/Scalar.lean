import LayoutCipher.Toml.Moment
import LayoutCipher.Toml.Number
import LayoutCipher.Toml.Text

/-!
# Scalars of settings documents

Scalars other than strings are words without quotes: truth values, numbers, dates and times.  Their
values are not looked at.
-/

namespace LayoutCipher.Toml

def isScalar (word : List Char) : Bool :=
  word = ['t', 'r', 'u', 'e'] || word = ['f', 'a', 'l', 's', 'e'] ||
    isInteger word || isFloat word || isMoment word

def isDelimiter (c : Char) : Bool :=
  isBlank c || c = '\n' || c = '\r' || c = '#' || c = '=' || c = ',' ||
    c = '[' || c = ']' || c = '\x7b' || c = '\x7d'

/-- Characters that go on with a word behind blanks. -/
def resumesWord (c : Char) : Bool :=
  !isDelimiter c && c ≠ '.' && c ≠ '"' && c ≠ '\''

/-- The word at the front of a text, and the rest.  Blanks belong to the word where another part of
it stands behind them, as the time does behind a date. -/
def splitWord : List Char → List Char × List Char
  | [] => ([], [])
  | c :: rest =>
      if !isDelimiter c || isBlank c && (skipBlanks rest).head?.any resumesWord then
        let (word, rest) := splitWord rest
        (c :: word, rest)
      else ([], c :: rest)

def skipScalar? (text : List Char) : Option (List Char) :=
  let (word, rest) := splitWord text
  if isScalar word then some rest else none

end LayoutCipher.Toml
