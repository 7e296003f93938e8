import LayoutCipher.Toml.Basic
import LayoutCipher.Toml.Scalar
import LayoutCipher.Toml.Text

/-!
# Reading settings documents

A document is a sequence of lines: headers that open tables, and values under keys.  Inside
brackets and braces, line ends and comments count as blanks, except within a dotted key.
-/

namespace LayoutCipher.Toml

/-- Characters of keys that stand without quotes. -/
def isKeyChar (c : Char) : Bool :=
  c.isAlphanum || c = '_' || c = '-'

def simpleKey? (text : List Char) : Option (String × List Char) :=
  match text.takeWhile isKeyChar with
  | [] => lineString? text
  | key => some (String.ofList key, text.dropWhile isKeyChar)

/-- Keys with points between them, within `bound` steps: all but the last, and the last. -/
def dottedKey? : (bound : Nat) → List Char → Option (List String × String × List Char)
  | 0, _ => none
  | bound + 1, text => do
      let (key, rest) ← simpleKey? (skipBlanks text)
      match skipBlanks rest with
      | '.' :: rest =>
          let (parents, last, rest) ← dottedKey? bound rest
          return (key :: parents, last, rest)
      | rest => return ([], key, rest)

/-- A dotted key and the equals sign behind it. -/
def assignedKey? (text : List Char) : Option (List String × String × List Char) := do
  let (parents, key, rest) ← dottedKey? (text.length + 1) text
  match rest with
  | '=' :: rest => return (parents, key, skipBlanks rest)
  | _ => none

/-- A dotted key of an inline table and the equals sign behind it; line ends and comments may stand
around the sign. -/
def inlineKey? (text : List Char) : Option (List String × String × List Char) := do
  let (parents, key, rest) ← dottedKey? (text.length + 1) text
  match ← skipSpace? false rest with
  | '=' :: rest => return (parents, key, ← skipSpace? false rest)
  | _ => none

/-- The elements of an array up to its bracket, within `bound` steps. -/
def elements? (value? : List Char → Option (Value × List Char)) :
    (bound : Nat) → List Char → Option (List Value × List Char)
  | 0, _ => none
  | bound + 1, text => do
      match ← skipSpace? false text with
      | ']' :: rest => return ([], rest)
      | text =>
          let (element, rest) ← value? text
          match ← skipSpace? false rest with
          | ',' :: rest =>
              let (others, rest) ← elements? value? bound rest
              return (element :: others, rest)
          | ']' :: rest => return ([element], rest)
          | _ => none

/-- The entries of an inline table up to its brace, added to `entries`, within `bound` steps. -/
def inlineEntries? (value? : List Char → Option (Value × List Char)) :
    (bound : Nat) → Entries → List Char → Option (Entries × List Char)
  | 0, _, _ => none
  | bound + 1, entries, text => do
      match ← skipSpace? false text with
      | '\x7d' :: rest => return (entries, rest)
      | text =>
          let (parents, key, rest) ← inlineKey? text
          let (value, rest) ← value? rest
          let entries ← addValue parents key value entries
          match ← skipSpace? false rest with
          | ',' :: rest => inlineEntries? value? bound entries rest
          | '\x7d' :: rest => return (entries, rest)
          | _ => none

def flatValue? : List Char → Option (Value × List Char)
  | '"' :: rest => do
      let (s, rest) ← string? ('"' :: rest)
      return (.string s, rest)
  | '\'' :: rest => do
      let (s, rest) ← string? ('\'' :: rest)
      return (.string s, rest)
  | text => do
      let rest ← skipScalar? text
      return (.scalar, rest)

/-- A value with at most `levels` arrays and inline tables inside each other. -/
def value? : (levels : Nat) → List Char → Option (Value × List Char)
  | levels + 1, '[' :: rest => do
      let (elements, rest) ← elements? (value? levels) (rest.length + 1) rest
      return (.array elements, rest)
  | levels + 1, '\x7b' :: rest => do
      let (entries, rest) ← inlineEntries? (value? levels) (rest.length + 1) [] rest
      return (.table .inline entries, rest)
  | _, text => flatValue? text

/-- How deep arrays and inline tables may be nested. -/
def maxLevels : Nat :=
  80

/-- A document that has been read up to some line. -/
structure Progress where
  /-- The table of the last header. -/
  header : List String
  entries : Entries

/-- A header in double brackets, behind them. -/
def nextTableHeader? (progress : Progress) (text : List Char) :
    Option (Progress × List Char) := do
  let (parents, key, rest) ← dottedKey? (text.length + 1) text
  match rest with
  | ']' :: ']' :: rest =>
      let entries ← openNextTable parents key progress.entries
      return (⟨parents ++ [key], entries⟩, rest)
  | _ => none

/-- A header in single brackets, behind the opening one. -/
def tableHeader? (progress : Progress) (text : List Char) :
    Option (Progress × List Char) := do
  let (parents, key, rest) ← dottedKey? (text.length + 1) text
  match rest with
  | ']' :: rest =>
      let entries ← openTable parents key progress.entries
      return (⟨parents ++ [key], entries⟩, rest)
  | _ => none

def assignment? (progress : Progress) (text : List Char) : Option (Progress × List Char) := do
  let (parents, key, rest) ← assignedKey? text
  let (value, rest) ← value? maxLevels rest
  let entries ← addUnder progress.header parents key value progress.entries
  return (⟨progress.header, entries⟩, rest)

/-- The rest of a document, within `bound` lines. -/
def lines? : (bound : Nat) → Progress → List Char → Option Entries
  | 0, _, _ => none
  | bound + 1, progress, text => do
      match ← skipSpace? false text with
      | [] => return progress.entries
      | text =>
          -- what follows the item on its line is `endLine?`'s to refuse
          let (progress, rest) ←
            match text with
            | '[' :: '[' :: rest => nextTableHeader? progress rest
            | '[' :: rest => tableHeader? progress rest
            | text => assignment? progress text
          lines? bound progress (← endLine? rest)

/-- The entries of a whole document; a byte-order mark in front is left out. -/
def read? (text : String) : Option Entries :=
  let document :=
    match text.toList with
    | '\ufeff' :: rest => rest
    | document => document
  lines? (document.length + 1) ⟨[], []⟩ document

end LayoutCipher.Toml
