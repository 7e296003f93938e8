import LayoutCipher.Text.Quoted

/-!
# Texts of the system

The system hands over names and paths as bytes.  Most of them are texts in UTF-8, but nothing makes
sure of it.  Such bytes can be shown with a replacement for what is no character, and can be quoted
with an escape for it.
-/

namespace LayoutCipher

/-- Bytes that the system hands over where a text is expected. -/
@[ext]
structure RawText where
  bytes : List UInt8
  deriving DecidableEq, Repr

namespace RawText

def ofString (text : String) : RawText :=
  ⟨text.toUTF8.data.toList⟩

instance : Coe String RawText :=
  ⟨ofString⟩

def textOfBytes? (bytes : List UInt8) : Option String :=
  String.fromUTF8? ⟨bytes.toArray⟩

/-- The text that the bytes are in UTF-8, if they are one. -/
def text? (raw : RawText) : Option String :=
  textOfBytes? raw.bytes

def isText (raw : RawText) : Bool :=
  raw.text?.isSome

@[simp]
theorem text?_ofString (text : String) : text? (ofString text) = some text :=
  dif_pos text.isValidUTF8

theorem text?_eq_some_iff {raw : RawText} {text : String} :
    raw.text? = some text ↔ raw = ofString text := by
  constructor
  · intro decoded
    obtain ⟨valid, same⟩ := Option.dite_none_right_eq_some.mp decoded
    obtain rfl := Option.some.inj same
    rfl
  · rintro rfl
    exact text?_ofString text

theorem ofString_injective {text text' : String} (same : ofString text = ofString text') :
    text = text' :=
  Option.some.inj (by rw [← text?_ofString text, same, text?_ofString])

instance : Append RawText :=
  ⟨fun front back => ⟨front.bytes ++ back.bytes⟩⟩

theorem bytes_append (front back : RawText) : (front ++ back).bytes = front.bytes ++ back.bytes :=
  rfl

theorem ofString_append (text text' : String) :
    ofString (text ++ text') = ofString text ++ ofString text' :=
  RawText.ext (by simp [ofString, bytes_append])

/-! ## Bytes that are no text -/

/-- The ranges of the bytes that go on with a character behind its first byte. -/
def continuations (first : UInt8) : List (UInt8 × UInt8) :=
  if first < 0xc2 then []
  else if first < 0xe0 then [(0x80, 0xbf)]
  else if first = 0xe0 then [(0xa0, 0xbf), (0x80, 0xbf)]
  else if first = 0xed then [(0x80, 0x9f), (0x80, 0xbf)]
  else if first < 0xf0 then [(0x80, 0xbf), (0x80, 0xbf)]
  else if first = 0xf0 then [(0x90, 0xbf), (0x80, 0xbf), (0x80, 0xbf)]
  else if first < 0xf4 then [(0x80, 0xbf), (0x80, 0xbf), (0x80, 0xbf)]
  else if first = 0xf4 then [(0x80, 0x8f), (0x80, 0xbf), (0x80, 0xbf)]
  else []

/-- Goes on with a piece as long as the bytes are those that are expected to continue it. -/
def piecesFrom (expected : List (UInt8 × UInt8)) (piece : List UInt8) :
    List UInt8 → List (List UInt8)
  | [] => [piece]
  | byte :: rest =>
      match expected with
      | [] => piece :: piecesFrom (continuations byte) [byte] rest
      | (low, high) :: others =>
          if low ≤ byte && byte ≤ high then piecesFrom others (piece ++ [byte]) rest
          else piece :: piecesFrom (continuations byte) [byte] rest

/-- Splits bytes into characters and what is none: the longest beginnings of characters that break
off, and single bytes that begin none. -/
def pieces : List UInt8 → List (List UInt8)
  | [] => []
  | first :: rest => piecesFrom (continuations first) [first] rest

theorem flatten_piecesFrom (expected : List (UInt8 × UInt8)) (piece bytes : List UInt8) :
    (piecesFrom expected piece bytes).flatten = piece ++ bytes := by
  induction bytes generalizing expected piece with
  | nil => simp [piecesFrom]
  | cons byte rest ih =>
      cases expected with
      | nil => simp [piecesFrom, ih]
      | cons range others =>
          simp only [piecesFrom]
          split <;> simp [ih]

/-- Nothing is lost in pieces. -/
theorem flatten_pieces (bytes : List UInt8) : (pieces bytes).flatten = bytes := by
  cases bytes with
  | nil => rfl
  | cons first rest => exact flatten_piecesFrom _ [first] rest

/-- The bytes as a text, with the replacement character for what is no character. -/
def shown (raw : RawText) : String :=
  match raw.text? with
  | some text => text
  | none =>
      String.join ((pieces raw.bytes).map fun piece => (textOfBytes? piece).getD "\ufffd")

@[simp]
theorem shown_ofString (text : String) : shown (ofString text) = text := by
  simp [shown]

/-- The escape of a byte that belongs to no character. -/
def byteEscape (byte : UInt8) : List Char :=
  ['\\', 'x'] ++ ((Nat.toDigits 16 byte.toNat).leftpad 2 '0').map Char.toUpper

/-- The bytes in quotes and on one line. -/
def quoted (raw : RawText) : String :=
  let escaped (piece : List UInt8) : List Char :=
    match textOfBytes? piece with
    | some text =>
        text.toList.flatMap fun c => if c = '\'' then ['\\', c] else Text.quotedChar c
    | none => piece.flatMap byteEscape
  String.ofList ('"' :: (pieces raw.bytes).flatMap escaped ++ ['"'])

-- A character that breaks off is one replacement, and two escapes.
example : (⟨[0x2f, 0xe2, 0x82, 0x61]⟩ : RawText).shown = "/\ufffda" := by decide +kernel

example : (⟨[0x2f, 0xe2, 0x82, 0x61]⟩ : RawText).quoted = "\"/\\xE2\\x82a\"" := by decide +kernel

end RawText

end LayoutCipher
