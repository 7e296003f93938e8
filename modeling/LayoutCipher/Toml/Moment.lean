/-!
# Dates and times of settings documents

Dates have to exist, and times have to fit into a day, which may end in a leap second.
-/

namespace LayoutCipher.Toml

def twoDigits? : List Char → Option Nat
  | [a, b] =>
      if a.isDigit && b.isDigit then
        some ((a.toNat - '0'.toNat) * 10 + (b.toNat - '0'.toNat))
      else none
  | _ => none

/-- Whether two digits denote a number between two bounds. -/
def isTwoDigits (least greatest : Nat) (text : List Char) : Bool :=
  match twoDigits? text with
  | some n => least ≤ n && n ≤ greatest
  | none => false

def daysInMonth (year month : Nat) : Nat :=
  let leap := year % 4 = 0 ∧ (year % 100 ≠ 0 ∨ year % 400 = 0)
  if month = 2 then (if leap then 29 else 28)
  else if month = 4 ∨ month = 6 ∨ month = 9 ∨ month = 11 then 30
  else 31

def isDate : List Char → Bool
  | [a, b, c, d, '-', e, f, '-', g, h] =>
      match twoDigits? [a, b], twoDigits? [c, d], twoDigits? [e, f] with
      | some century, some year, some month =>
          1 ≤ month && month ≤ 12 &&
            isTwoDigits 1 (daysInMonth (century * 100 + year) month) [g, h]
      | _, _, _ => false
  | _ => false

/-- Whether a text is a fraction of a second, or nothing. -/
def isSecondFraction : List Char → Bool
  | [] => true
  | '.' :: digits => digits ≠ [] && digits.all Char.isDigit
  | _ => false

/-- Whether a word is a time of the day; the seconds may be left out. -/
def isTime : List Char → Bool
  | a :: b :: ':' :: c :: d :: rest =>
      isTwoDigits 0 23 [a, b] && isTwoDigits 0 59 [c, d] &&
        match rest with
        | [] => true
        | ':' :: e :: f :: fraction => isTwoDigits 0 60 [e, f] && isSecondFraction fraction
        | _ => false
  | _ => false

/-- Whether a word is a distance from universal time. -/
def isOffset : List Char → Bool
  | [c] => c = 'Z' || c = 'z'
  | [sign, a, b, ':', c, d] =>
      (sign = '+' || sign = '-') && isTwoDigits 0 23 [a, b] && isTwoDigits 0 59 [c, d]
  | _ => false

/-- Whether a word is a time of the day, with or without an offset. -/
def isTimeWithOffset (text : List Char) : Bool :=
  let isTimeChar (c : Char) : Bool := c.isDigit || c = ':' || c = '.'
  let offset := text.dropWhile isTimeChar
  isTime (text.takeWhile isTimeChar) && (offset = [] || isOffset offset)

def isMoment (text : List Char) : Bool :=
  isDate text || isTime text ||
    match text.drop 10 with
    | separator :: time =>
        isDate (text.take 10) && (separator = 'T' || separator = 't' || separator = ' ') &&
          isTimeWithOffset time
    | [] => false

end LayoutCipher.Toml
