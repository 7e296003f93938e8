import LayoutCipher.Json.Printer

/-!
# Reading JSON

Each reader takes the front of a text and returns what it read with the rest, or nothing where
the text does not follow the grammar.  Escapes that name half of a surrogate pair without the
other half stand for no character: `Surrogates` says what becomes of them.

Values nest, so the readers of values carry a bound on the depth.  The length of the text is
always enough, because every level opens with a character of its own.
-/

namespace LayoutCipher.Json

/-- What becomes of an escape for an unpaired surrogate. -/
inductive Surrogates where
  /-- The string is refused. -/
  | refused
  /-- The escape stands for the replacement character. -/
  | replaced
  deriving DecidableEq

namespace Reader

def isBlank (c : Char) : Bool :=
  c = ' ' || c = '\t' || c = '\n' || c = '\r'

def skipBlanks (text : List Char) : List Char :=
  text.dropWhile isBlank

/-- Takes a given word off the front. -/
def word? (expected text : List Char) : Option (List Char) :=
  if expected.isPrefixOf text then some (text.drop expected.length) else none

/-- The number written by four digits of base 16. -/
def codeUnit? (text : List Char) : Option (Nat × List Char) :=
  if text.length < 4 then none
  else (Hexadecimal.number? (text.take 4)).map fun unit => (unit, text.drop 4)

def isHighSurrogate (unit : Nat) : Bool :=
  0xd800 ≤ unit && unit < 0xdc00

def isLowSurrogate (unit : Nat) : Bool :=
  0xdc00 ≤ unit && unit < 0xe000

/-- The character behind a backslash and the letter `u`. -/
def unicodeEscape? (surrogates : Surrogates) (text : List Char) :
    Option (Char × List Char) := do
  let (unit, rest) ← codeUnit? text
  let unpaired : Option (Char × List Char) :=
    match surrogates with
    | .refused => none
    | .replaced => some ('\ufffd', rest)
  if isHighSurrogate unit then
    -- a second half has to follow at once, as an escape of its own
    match rest with
    | '\\' :: 'u' :: behind =>
        let (second, after) ← codeUnit? behind
        if isLowSurrogate second then
          return (Char.ofNat (0x10000 + (unit - 0xd800) * 0x400 + (second - 0xdc00)), after)
        else unpaired
    | _ => unpaired
  else if isLowSurrogate unit then unpaired
  else return (Char.ofNat unit, rest)

/-- The character behind a backslash. -/
def escape? (surrogates : Surrogates) : List Char → Option (Char × List Char)
  | '"' :: rest => some ('"', rest)
  | '\\' :: rest => some ('\\', rest)
  | '/' :: rest => some ('/', rest)
  | 'b' :: rest => some ('\x08', rest)
  | 'f' :: rest => some ('\x0c', rest)
  | 'n' :: rest => some ('\n', rest)
  | 'r' :: rest => some ('\r', rest)
  | 't' :: rest => some ('\t', rest)
  | 'u' :: rest => unicodeEscape? surrogates rest
  | _ => none

/-- The characters of a string up to its closing quote, within `bound` steps. -/
def stringBody? (surrogates : Surrogates) :
    (bound : Nat) → List Char → Option (List Char × List Char)
  | 0, _ => none
  | _ + 1, [] => none
  | bound + 1, c :: rest =>
      if c = '"' then some ([], rest)
      else if c = '\\' then do
        let (escaped, rest) ← escape? surrogates rest
        let (body, rest) ← stringBody? surrogates bound rest
        return (escaped :: body, rest)
      else if c.toNat < 0x20 then none
      else do
        let (body, rest) ← stringBody? surrogates bound rest
        return (c :: body, rest)

def string? (surrogates : Surrogates) : List Char → Option (String × List Char)
  | '"' :: rest => do
      let (body, rest) ← stringBody? surrogates (rest.length + 1) rest
      return (String.ofList body, rest)
  | _ => none

def digits? (text : List Char) : Option (List Char × List Char) :=
  let digits := text.takeWhile Char.isDigit
  if digits = [] then none else some (digits, text.dropWhile Char.isDigit)

/-- The digits in front of the point: a single zero, or no zero first. -/
def wholePart? : List Char → Option (List Char × List Char)
  | '0' :: rest => if (rest.head?.any Char.isDigit) then none else some (['0'], rest)
  | text => digits? text

/-- A point with digits behind it, where there is a point. -/
def fraction? : List Char → Option (List Char × List Char)
  | '.' :: rest => do
      let (digits, rest) ← digits? rest
      return ('.' :: digits, rest)
  | text => some ([], text)

/-- The letter of an exponent with its sign and digits, where there is one. -/
def exponent? : List Char → Option (List Char × List Char)
  | c :: rest =>
      if c = 'e' || c = 'E' then
        match rest with
        | sign :: behind =>
            if sign = '+' || sign = '-' then do
              let (digits, after) ← digits? behind
              return (c :: sign :: digits, after)
            else do
              let (digits, after) ← digits? rest
              return (c :: digits, after)
        | [] => none
      else some ([], c :: rest)
  | [] => some ([], [])

/-- The value of a number from its parts: an integer without fraction, exponent and sign of
zero, and the text as it stands otherwise. -/
def numberOfParts (negative : Bool) (whole fraction exponent : List Char) : Json :=
  let magnitude := Decimal.value whole
  if fraction = [] ∧ exponent = [] ∧ ¬(negative ∧ magnitude = 0) then
    .integer (if negative then -(magnitude : Int) else magnitude)
  else
    .decimal (String.ofList ((if negative then ['-'] else []) ++ whole ++ fraction ++ exponent))

def number? (text : List Char) : Option (Json × List Char) := do
  let (negative, text) :=
    match text with
    | '-' :: rest => (true, rest)
    | _ => (false, text)
  let (whole, text) ← wholePart? text
  let (fraction, text) ← fraction? text
  let (exponent, text) ← exponent? text
  return (numberOfParts negative whole fraction exponent, text)

/-- The elements of an array behind its bracket or behind a comma, up to its end. -/
def elements? (value? : List Char → Option (Json × List Char)) :
    (bound : Nat) → List Char → Option (List Json × List Char)
  | 0, _ => none
  | bound + 1, text => do
      let (element, rest) ← value? text
      match skipBlanks rest with
      | ',' :: rest =>
          let (others, rest) ← elements? value? bound rest
          return (element :: others, rest)
      | ']' :: rest => return ([element], rest)
      | _ => none

/-- The members of an object behind its brace or behind a comma, up to its end.  The reader of a
member's value is told the member's name. -/
def members? (surrogates : Surrogates)
    (value? : String → List Char → Option (Json × List Char)) :
    (bound : Nat) → List Char → Option (List (String × Json) × List Char)
  | 0, _ => none
  | bound + 1, text => do
      let (name, rest) ← string? surrogates (skipBlanks text)
      match skipBlanks rest with
      | ':' :: rest =>
          let (value, rest) ← value? name rest
          match skipBlanks rest with
          | ',' :: rest =>
              let (others, rest) ← members? surrogates value? bound rest
              return ((name, value) :: others, rest)
          | '\x7d' :: rest => return ([(name, value)], rest)
          | _ => none
      | _ => none

/-- An array behind its bracket. -/
def array? (value? : List Char → Option (Json × List Char)) (text : List Char) :
    Option (List Json × List Char) :=
  match skipBlanks text with
  | ']' :: rest => some ([], rest)
  | _ => elements? value? (text.length + 1) text

/-- An object behind its brace. -/
def object? (surrogates : Surrogates)
    (value? : String → List Char → Option (Json × List Char)) (text : List Char) :
    Option (List (String × Json) × List Char) :=
  match skipBlanks text with
  | '\x7d' :: rest => some ([], rest)
  | _ => members? surrogates value? (text.length + 1) text

/-- A value nested at most `depth` levels, with blanks in front. -/
def value? (surrogates : Surrogates) :
    (depth : Nat) → List Char → Option (Json × List Char)
  | 0, _ => none
  | depth + 1, text =>
      match skipBlanks text with
      | '[' :: rest => do
          let (elements, rest) ← array? (value? surrogates depth) rest
          return (.array elements, rest)
      | '\x7b' :: rest => do
          let (members, rest) ← object? surrogates (fun _ => value? surrogates depth) rest
          return (.object members, rest)
      | '"' :: rest => do
          let (s, rest) ← string? surrogates ('"' :: rest)
          return (.string s, rest)
      | 'n' :: rest => do
          let rest ← word? ['u', 'l', 'l'] rest
          return (.null, rest)
      | 't' :: rest => do
          let rest ← word? ['r', 'u', 'e'] rest
          return (.bool true, rest)
      | 'f' :: rest => do
          let rest ← word? ['a', 'l', 's', 'e'] rest
          return (.bool false, rest)
      | text => number? text

end Reader

/-- The value that a whole text denotes. -/
def read? (text : String) : Option Json := do
  let (value, rest) ← Reader.value? .refused (text.length + 1) text.toList
  if (Reader.skipBlanks rest).isEmpty then return value else none

end LayoutCipher.Json
