import LayoutCipher.Grid.Basic
import LayoutCipher.Json.Printer

/-!
# Keyboard layouts

A layout is a grid of characters.  This module builds layouts from row texts and writes them as
text and as JSON.
-/

namespace LayoutCipher

namespace Grid

variable {α : Type}

/-- The text of a grid: blanks between the cells of a row, line breaks between the rows. -/
def render (cellText : α → List Char) (g : Grid α) : List Char :=
  ['\n'].intercalate (g.rows.map fun cells => [' '].intercalate (cells.map cellText))

end Grid

/-- A keyboard layout: one character per key. -/
abbrev Layout :=
  Grid Char

namespace Layout

/-- The layout whose rows are the characters of the given texts. -/
def ofStrings (rows : List String) : Except Grid.Defect Layout :=
  Grid.ofRows (rows.map String.toList)

def rowStrings (layout : Layout) : List String :=
  layout.rows.map String.ofList

def display (layout : Layout) : String :=
  String.ofList (Grid.render (fun key => [key]) layout)

/-- A layout as the array of its row texts. -/
def toJson (layout : Layout) : Json :=
  .array (layout.rowStrings.map .string)

def json (layout : Layout) : String :=
  (toJson layout).compact

def qwertyRows : List String :=
  ["1234567890", "QWERTYUIOP", "ASDFGHJKL;", "ZXCVBNM,./"]

/-- The built-in layout of four rows and ten columns. -/
def qwerty : Layout where
  rows := qwertyRows.map String.toList
  width := 10
  rows_ne_nil := by decide
  width_pos := by decide
  length_of_mem := by decide
  nodup := by decide

end Layout

end LayoutCipher
