import LayoutCipher.Text.Numeral

/-!
# JSON values and how they are written

Objects keep their members in order, and keep every member where a name is repeated.
`Json.compact` writes a value without blanks, `Json.pretty` with a line for each member and
element, indented by two blanks per level.
-/

namespace LayoutCipher

/-- A JSON value.  A number is an integer, or else the text of a number that is none (with a
fraction, an exponent or the sign of a negative zero). -/
inductive Json where
  | null
  | bool (b : Bool)
  | integer (n : Int)
  | decimal (text : String)
  | string (s : String)
  | array (elements : List Json)
  | object (members : List (String × Json))

namespace Json

/-- How a character stands in a string: quotes, backslashes and control characters are
escaped, everything else stands for itself. -/
def escapeChar (c : Char) : List Char :=
  if c = '"' then ['\\', '"']
  else if c = '\\' then ['\\', '\\']
  else if c = '\x08' then ['\\', 'b']
  else if c = '\x0c' then ['\\', 'f']
  else if c = '\n' then ['\\', 'n']
  else if c = '\r' then ['\\', 'r']
  else if c = '\t' then ['\\', 't']
  else if c.toNat < 0x20 then
    ['\\', 'u', '0', '0', Hexadecimal.digit (c.toNat / 16),
      Hexadecimal.digit (c.toNat % 16)]
  else [c]

/-- A string literal. -/
def stringChars (s : String) : List Char :=
  '"' :: s.toList.flatMap escapeChar ++ ['"']

mutual

/-- A value without blanks. -/
def compactChars : Json → List Char
  | .null => ['n', 'u', 'l', 'l']
  | .bool true => ['t', 'r', 'u', 'e']
  | .bool false => ['f', 'a', 'l', 's', 'e']
  | .integer n => Decimal.ofInt n
  | .decimal text => text.toList
  | .string s => stringChars s
  | .array [] => ['[', ']']
  | .array (first :: rest) => '[' :: compactChars first ++ compactElements rest
  | .object [] => ['\x7b', '\x7d']
  | .object ((name, value) :: rest) =>
      '\x7b' :: stringChars name ++ ':' :: compactChars value ++ compactMembers rest

/-- The elements behind the first, and the end of the array. -/
def compactElements : List Json → List Char
  | [] => [']']
  | element :: rest => ',' :: compactChars element ++ compactElements rest

/-- The members behind the first, and the end of the object. -/
def compactMembers : List (String × Json) → List Char
  | [] => ['\x7d']
  | (name, value) :: rest =>
      ',' :: stringChars name ++ ':' :: compactChars value ++ compactMembers rest

end

/-- The start of a new line at a level of indentation. -/
def newline (level : Nat) : List Char :=
  '\n' :: List.replicate (2 * level) ' '

mutual

/-- A value whose lines are indented to `level`, the first line excepted. -/
def prettyChars (level : Nat) : Json → List Char
  | .array (first :: rest) =>
      '[' :: newline (level + 1) ++ prettyChars (level + 1) first ++ prettyElements level rest
  | .object ((name, value) :: rest) =>
      '\x7b' :: newline (level + 1) ++ stringChars name ++ ':' :: ' ' ::
        prettyChars (level + 1) value ++ prettyMembers level rest
  | value => compactChars value

def prettyElements (level : Nat) : List Json → List Char
  | [] => newline level ++ [']']
  | element :: rest =>
      ',' :: newline (level + 1) ++ prettyChars (level + 1) element ++
        prettyElements level rest

def prettyMembers (level : Nat) : List (String × Json) → List Char
  | [] => newline level ++ ['\x7d']
  | (name, value) :: rest =>
      ',' :: newline (level + 1) ++ stringChars name ++ ':' :: ' ' ::
        prettyChars (level + 1) value ++ prettyMembers level rest

end

def compact (value : Json) : String :=
  String.ofList value.compactChars

/-- The text of a value, spread over indented lines. -/
def pretty (value : Json) : String :=
  String.ofList (value.prettyChars 0)

end Json

end LayoutCipher
