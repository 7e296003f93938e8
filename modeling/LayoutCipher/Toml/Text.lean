import LayoutCipher.Text.Numeral

/-!
# Text of settings documents

Blanks, comments, line ends and strings.  Each reader takes the front of a text and returns what
it read with the rest, or nothing where the text does not follow the grammar.
-/

namespace LayoutCipher.Toml

def isBlank (c : Char) : Bool :=
  c = ' ' || c = '\t'

def skipBlanks (text : List Char) : List Char :=
  text.dropWhile isBlank

/-- Characters that strings and comments may hold: no controls, except for the tab. -/
def isTextChar (c : Char) : Bool :=
  c = '\t' || (0x20 ≤ c.toNat && c.toNat ≠ 0x7f)

/-- Leaves out blanks, line ends and comments.  With `inComment`, the front of the text belongs to
a comment. -/
def skipSpace? (inComment : Bool) : List Char → Option (List Char)
  | [] => some []
  | c :: rest =>
      if c = '\n' then skipSpace? false rest
      else if c = '\r' then
        if rest.head? = some '\n' then skipSpace? false rest else none
      else if inComment then
        if isTextChar c then skipSpace? true rest else none
      else if isBlank c then skipSpace? false rest
      else if c = '#' then skipSpace? true rest
      else some (c :: rest)

/-- The end of a line, with a comment in front of it if there is one. -/
def endLine? (text : List Char) : Option (List Char) :=
  match skipBlanks text with
  | [] => some []
  | '\n' :: rest => some rest
  | '\r' :: '\n' :: rest => some rest
  | '#' :: rest =>
      match rest.dropWhile isTextChar with
      | [] => some []
      | '\n' :: rest => some rest
      | '\r' :: '\n' :: rest => some rest
      | _ => none
  | _ => none

/-- The character whose code point stands in the next `count` digits of base 16. -/
def codePoint? (count : Nat) (text : List Char) : Option (Char × List Char) :=
  if text.length < count then none
  else do
    let code ← Hexadecimal.number? (text.take count)
    if code.isValidChar then return (Char.ofNat code, text.drop count) else none

def escape? : List Char → Option (Char × List Char)
  | 'b' :: rest => some ('\x08', rest)
  | 't' :: rest => some ('\t', rest)
  | 'n' :: rest => some ('\n', rest)
  | 'f' :: rest => some ('\x0c', rest)
  | 'r' :: rest => some ('\r', rest)
  | 'e' :: rest => some ('\x1b', rest)
  | '"' :: rest => some ('"', rest)
  | '\\' :: rest => some ('\\', rest)
  | 'x' :: rest => codePoint? 2 rest
  | 'u' :: rest => codePoint? 4 rest
  | 'U' :: rest => codePoint? 8 rest
  | _ => none

/-- The characters of a string between single quotes, up to the closing one. -/
def literalBody? : List Char → Option (List Char × List Char)
  | [] => none
  | c :: rest =>
      if c = '\'' then some ([], rest)
      else if isTextChar c then do
        let (body, rest) ← literalBody? rest
        return (c :: body, rest)
      else none

/-- The characters of a string between double quotes, up to the closing one, within `bound`
steps. -/
def basicBody? : (bound : Nat) → List Char → Option (List Char × List Char)
  | 0, _ => none
  | _ + 1, [] => none
  | bound + 1, c :: rest =>
      if c = '"' then some ([], rest)
      else if c = '\\' then do
        let (escaped, rest) ← escape? rest
        let (body, rest) ← basicBody? bound rest
        return (escaped :: body, rest)
      else if isTextChar c then do
        let (body, rest) ← basicBody? bound rest
        return (c :: body, rest)
      else none

/-- Takes the end of a string of several lines off the front: three quotes, with up to two more in
front of them that belong to the string. -/
def closing? (quote : Char) (text : List Char) : Option (List Char × List Char) :=
  let quotes := (text.takeWhile (· = quote)).length
  if 3 ≤ quotes then
    let own := min (quotes - 3) 2
    some (List.replicate own quote, text.drop (own + 3))
  else none

/-- Leaves out blanks and line ends. -/
def skipLines : List Char → List Char
  | '\n' :: rest => skipLines rest
  | '\r' :: '\n' :: rest => skipLines rest
  | c :: rest => if isBlank c then skipLines rest else c :: rest
  | [] => []

/-- The blanks and line ends behind a backslash that ends a line; there has to be a line end. -/
def lineContinuation? (text : List Char) : Option (List Char) :=
  match skipBlanks text with
  | '\n' :: rest => some (skipLines rest)
  | '\r' :: '\n' :: rest => some (skipLines rest)
  | _ => none

/-- The characters of a string of several lines, up to the closing quotes, within `bound` steps.
Escapes are read in strings with double quotes only. -/
def multilineBody? (quote : Char) : (bound : Nat) → List Char → Option (List Char × List Char)
  | 0, _ => none
  | bound + 1, text =>
      match closing? quote text with
      | some closed => some closed
      | none =>
          match text with
          | [] => none
          | c :: rest =>
              if c = '\\' ∧ quote = '"' then
                match lineContinuation? rest with
                | some rest => multilineBody? quote bound rest
                | none => do
                    let (escaped, rest) ← escape? rest
                    let (body, rest) ← multilineBody? quote bound rest
                    return (escaped :: body, rest)
              -- a carriage return is part of a line end or of nothing
              else if c = '\r' ∧ rest.head? ≠ some '\n' then none
              else if isTextChar c ∨ c = '\n' ∨ c = '\r' then do
                let (body, rest) ← multilineBody? quote bound rest
                return (c :: body, rest)
              else none

/-- A line end just behind the opening quotes of a string of several lines, which is left out. -/
def skipFirstLineEnd : List Char → List Char
  | '\n' :: rest => rest
  | '\r' :: '\n' :: rest => rest
  | text => text

def lineString? : List Char → Option (String × List Char)
  | '"' :: rest => do
      let (body, rest) ← basicBody? (rest.length + 1) rest
      return (String.ofList body, rest)
  | '\'' :: rest => do
      let (body, rest) ← literalBody? rest
      return (String.ofList body, rest)
  | _ => none

/-- A string of several lines, behind its three opening quotes. -/
def multilineString? (quote : Char) (text : List Char) : Option (String × List Char) := do
  let (body, rest) ← multilineBody? quote (text.length + 1) (skipFirstLineEnd text)
  return (String.ofList body, rest)

def string? : List Char → Option (String × List Char)
  | '"' :: '"' :: '"' :: rest => multilineString? '"' rest
  | '\'' :: '\'' :: '\'' :: rest => multilineString? '\'' rest
  | text => lineString? text

end LayoutCipher.Toml
