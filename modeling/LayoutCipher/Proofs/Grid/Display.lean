import LayoutCipher.Proofs.Grid.Cells
import LayoutCipher.Proofs.Text.Decimal
import LayoutCipher.Grid.Layout
import LayoutCipher.Operation.Apply

/-!
# Grids as text

The text of a grid loses nothing.  Keys are single characters, so in the text of a layout keys and
separators take turns, whatever the keys are: two layouts with one text have the same keys in
reading order, and the first line break tells how wide they are.  Numbers are of any length, but no
number is written with a separator in it, so the text can be cut at the line breaks and the lines at
the blanks.
-/

namespace LayoutCipher.Grid

/-! ## Keys and separators -/

section

variable {rows : List (List Char)} {width : Nat}

/-- The text of rows of keys. -/
def linesText (rows : List (List Char)) : List Char :=
  ['\n'].intercalate (rows.map (·.intersperse ' '))

theorem intercalate_map_singleton (separator : Char) (keys : List Char) :
    [separator].intercalate (keys.map fun key => [key]) = keys.intersperse separator := by
  induction keys with
  | nil => rfl
  | cons key rest ih => cases rest <;> simp_all

theorem toList_display (layout : Layout) : layout.display.toList = linesText layout.rows := by
  simp [Layout.display, render, linesText, intercalate_map_singleton]

theorem linesText_cons {cells : List Char} (more : rows ≠ []) :
    linesText (cells :: rows) = cells.intersperse ' ' ++ '\n' :: linesText rows := by
  simp [linesText, List.intercalate_cons_of_ne_nil, more]

/-- The separator behind a key: a line break behind the last key of a row, else a blank. -/
def separatorBehind (width i : Nat) : Char :=
  if (i + 1) % width = 0 then '\n' else ' '

theorem separatorBehind_of_lt {i : Nat} (inside : i + 1 < width) :
    separatorBehind width i = ' ' := by
  simp [separatorBehind, Nat.mod_eq_of_lt inside]

theorem separatorBehind_add (width i : Nat) :
    separatorBehind width (i + width) = separatorBehind width i := by
  rw [separatorBehind, separatorBehind, Nat.add_right_comm, Nat.add_mod_right]

/-! A line and its line break take two characters for each key. -/

theorem getElem?_line_add {cells behind : List Char} (filled : cells.length = width)
    (width_pos : 0 < width) (j k : Nat) :
    (cells.intersperse ' ' ++ '\n' :: behind)[2 * (j + width) + k]? = behind[2 * j + k]? := by
  have index : 2 * (j + width) + k - (cells.intersperse ' ').length = 2 * j + k + 1 := by
    simp
    omega
  rw [List.getElem?_append_right (by simp; omega), index, List.getElem?_cons_succ]

theorem getElem?_line_two_mul {cells behind : List Char} (filled : cells.length = width) {i : Nat}
    (inside : i < width) :
    (cells.intersperse ' ' ++ '\n' :: behind)[2 * i]? = cells[i]? := by
  rw [List.getElem?_append_left (by simp; omega), List.getElem?_intersperse_two_mul]

theorem getElem?_line_two_mul_add_one {cells behind : List Char} (filled : cells.length = width)
    {i : Nat} (inside : i < width) :
    (cells.intersperse ' ' ++ '\n' :: behind)[2 * i + 1]? = some (separatorBehind width i) := by
  rcases Nat.lt_or_eq_of_le (show i + 1 ≤ width from inside) with within | atEnd
  · rw [List.getElem?_append_left (by simp; omega), separatorBehind_of_lt within,
      List.getElem?_intersperse_two_mul_add_one (filled.symm ▸ within)]
  · have ends : 2 * i + 1 = (cells.intersperse ' ').length := by
      simp
      omega
    rw [ends, List.getElem?_append_right (Nat.le_refl _), Nat.sub_self, List.getElem?_cons_zero,
      separatorBehind, atEnd, Nat.mod_self, if_pos rfl]

theorem getElem?_linesText_two_mul (width_pos : 0 < width)
    (length_eq : ∀ cells ∈ rows, cells.length = width) (i : Nat) :
    (linesText rows)[2 * i]? = rows.flatten[i]? := by
  induction rows generalizing i with
  | nil => rfl
  | cons cells rest ih =>
      obtain ⟨filled, later⟩ := List.forall_mem_cons.mp length_eq
      by_cases last : rest = []
      · subst last
        simp [linesText]
      rw [linesText_cons last, List.flatten_cons]
      rcases Nat.lt_or_ge i width with inside | behind
      · rw [getElem?_line_two_mul filled inside, List.getElem?_append_left (filled.symm ▸ inside)]
      · obtain ⟨j, rfl⟩ := Nat.exists_eq_add_of_le' behind
        rw [← Nat.add_zero (2 * (j + width)), getElem?_line_add filled width_pos, Nat.add_zero,
          ih later, ← filled, List.getElem?_append_right (Nat.le_add_left ..), Nat.add_sub_cancel]

theorem getElem?_linesText_two_mul_add_one (width_pos : 0 < width)
    (length_eq : ∀ cells ∈ rows, cells.length = width) (i : Nat) :
    (linesText rows)[2 * i + 1]? =
      if i + 1 < rows.flatten.length then some (separatorBehind width i) else none := by
  induction rows generalizing i with
  | nil => rfl
  | cons cells rest ih =>
      obtain ⟨filled, later⟩ := List.forall_mem_cons.mp length_eq
      by_cases last : rest = []
      · subst last
        by_cases inside : i + 1 < width
        · simp [linesText, filled, inside, separatorBehind_of_lt,
            List.getElem?_intersperse_two_mul_add_one]
        · simp [linesText, filled, inside]
          omega
      have more : 0 < rest.flatten.length := by
        obtain ⟨next, others, rfl⟩ := List.exists_cons_of_ne_nil last
        have next_filled : next.length = width := later next List.mem_cons_self
        rw [List.flatten_cons, List.length_append]
        omega
      rw [linesText_cons last, List.flatten_cons, List.length_append, filled]
      rcases Nat.lt_or_ge i width with inside | behind
      · rw [getElem?_line_two_mul_add_one filled inside, if_pos (by omega)]
      · obtain ⟨j, rfl⟩ := Nat.exists_eq_add_of_le' behind
        rw [getElem?_line_add filled width_pos, ih later, separatorBehind_add]
        have shifted :
            j + width + 1 < width + rest.flatten.length ↔ j + 1 < rest.flatten.length := by
          omega
        simp only [shifted]

end

/-! ## Layouts -/

section

variable {first second : Layout}

theorem getElem?_display_two_mul (layout : Layout) (i : Nat) :
    layout.display.toList[2 * i]? = layout.cells[i]? := by
  rw [toList_display]
  exact getElem?_linesText_two_mul layout.width_pos layout.length_of_mem i

theorem getElem?_display_two_mul_add_one (layout : Layout) (i : Nat) :
    layout.display.toList[2 * i + 1]? =
      if i + 1 < layout.cells.length then some (separatorBehind layout.width i) else none := by
  rw [toList_display]
  exact getElem?_linesText_two_mul_add_one layout.width_pos layout.length_of_mem i

theorem length_display (layout : Layout) :
    layout.display.toList.length = 2 * layout.cells.length - 1 := by
  have cells_pos := Nat.lt_of_lt_of_le layout.width_pos layout.width_le_length_cells
  obtain ⟨i, last⟩ := Nat.exists_eq_succ_of_ne_zero (Nat.ne_of_gt cells_pos)
  -- the last key is there, and no separator behind it
  have reached := (getElem?_display_two_mul layout i).trans
    (List.getElem?_eq_getElem (by omega))
  have ended := getElem?_display_two_mul_add_one layout i
  rw [if_neg (by omega), List.getElem?_eq_none_iff] at ended
  have inside := (List.getElem?_eq_some_iff.mp reached).1
  omega

theorem cells_eq_of_display_eq (same : first.display = second.display) :
    first.cells = second.cells := by
  apply List.ext_getElem?
  intro i
  rw [← getElem?_display_two_mul, ← getElem?_display_two_mul, same]

/-- The first line break stands behind the first row. -/
theorem width_le_of_display_eq (same : first.display = second.display) :
    second.width ≤ first.width := by
  by_contra wider
  obtain ⟨i, last⟩ := Nat.exists_eq_succ_of_ne_zero (Nat.ne_of_gt first.width_pos)
  have sameCells := cells_eq_of_display_eq same
  have fits := second.width_le_length_cells
  have here := getElem?_display_two_mul_add_one first i
  have there := getElem?_display_two_mul_add_one second i
  rw [if_pos (by omega)] at there
  rw [sameCells, same, there, if_pos (by omega), separatorBehind_of_lt (by omega),
    separatorBehind, ← Nat.succ_eq_add_one, ← last, Nat.mod_self, if_pos rfl] at here
  exact absurd here (by decide)

theorem eq_of_display_eq (same : first.display = second.display) : first = second :=
  ext_cells (Nat.le_antisymm (width_le_of_display_eq same.symm) (width_le_of_display_eq same))
    (cells_eq_of_display_eq same)

end

/-! ## Numbers -/

section

variable {α : Type} {cellText : α → List Char}

theorem mem_intercalate {separator c : Char} {parts : List (List Char)}
    (mem : c ∈ [separator].intercalate parts) : c = separator ∨ ∃ part ∈ parts, c ∈ part := by
  induction parts with
  | nil => cases mem
  | cons part rest ih =>
      by_cases last : rest = []
      · subst last
        exact .inr ⟨part, List.mem_cons_self, by simpa using mem⟩
      · rw [List.intercalate_cons_of_ne_nil last, List.append_assoc, List.mem_append,
          List.singleton_append, List.mem_cons] at mem
        rcases mem with inside | separates | later
        · exact .inr ⟨part, List.mem_cons_self, inside⟩
        · exact .inl separates
        · refine (ih later).imp_right ?_
          rintro ⟨other, mem, inside⟩
          exact ⟨other, List.mem_cons_of_mem part mem, inside⟩

theorem newline_not_mem_line (unbroken : ∀ cell, '\n' ∉ cellText cell) (row : List α) :
    '\n' ∉ [' '].intercalate (row.map cellText) := by
  intro mem
  rcases mem_intercalate mem with isBlank | ⟨word, word_mem, inside⟩
  · exact absurd isBlank (by decide)
  · obtain ⟨cell, -, rfl⟩ := List.mem_map.mp word_mem
    exact unbroken cell inside

theorem splitOn_intercalate_map {β : Type} {separator : Char} {text : β → List Char}
    {items : List β} (whole : ∀ item, separator ∉ text item) (items_ne : items ≠ []) :
    ([separator].intercalate (items.map text)).splitOn separator = items.map text := by
  refine List.splitOn_intercalate separator ?_ (by simpa using items_ne)
  intro part mem
  obtain ⟨item, -, rfl⟩ := List.mem_map.mp mem
  exact whole item

theorem row_ne_nil {g : Grid α} {row : List α} (mem : row ∈ g.rows) : row ≠ [] := by
  rw [← List.length_pos_iff, g.length_of_mem row mem]
  exact g.width_pos

/-- The texts of the cells are what is between the blanks of what is between the line breaks. -/
theorem splitOn_render (blankless : ∀ cell, ' ' ∉ cellText cell)
    (unbroken : ∀ cell, '\n' ∉ cellText cell) (g : Grid α) :
    ((g.render cellText).splitOn '\n').map (·.splitOn ' ') = g.rows.map (·.map cellText) := by
  rw [render, splitOn_intercalate_map (newline_not_mem_line unbroken) g.rows_ne_nil, List.map_map]
  apply List.map_congr_left
  intro row mem
  exact splitOn_intercalate_map blankless (row_ne_nil mem)

theorem render_injective (injective : Function.Injective cellText)
    (blankless : ∀ cell, ' ' ∉ cellText cell) (unbroken : ∀ cell, '\n' ∉ cellText cell) :
    Function.Injective (render cellText) := by
  intro first second same
  have texts : first.rows.map (·.map cellText) = second.rows.map (·.map cellText) := by
    rw [← splitOn_render blankless unbroken first, ← splitOn_render blankless unbroken second, same]
  exact Grid.ext (injective.list_map.list_map texts)

theorem render_ofInt_injective {number : α → Int} (injective : Function.Injective number) :
    Function.Injective (render fun cell => Decimal.ofInt (number cell)) :=
  render_injective (Decimal.ofInt_injective.comp injective)
    (fun _ => Decimal.not_mem_ofInt _ rfl (by decide))
    (fun _ => Decimal.not_mem_ofInt _ rfl (by decide))

end

/-! ## Nothing is lost -/

/-- The text of a layout with `R` rows of `C` keys is made of the `R * C` keys in reading order and
of the separators between them, and no other layout has it.  Nor have two grids of numbers one
text, for any type of numbers, such as the words of some number of bits. -/
theorem text_determines_grid :
    (∀ layout : Layout,
      layout.display.toList.length = 2 * (layout.height * layout.width) - 1 ∧
      ∀ i < layout.height * layout.width,
        layout.display.toList[2 * i]? = layout.cells[i]? ∧
        (i + 1 < layout.height * layout.width →
          layout.display.toList[2 * i + 1]? =
            some (if (i + 1) % layout.width = 0 then '\n' else ' '))) ∧
    (∀ first second : Layout, first.display = second.display → first = second) ∧
    ∀ (α : Type) (number : α → Int), Function.Injective number →
      ∀ first second : Grid α,
        first.render (fun cell => Decimal.ofInt (number cell)) =
          second.render (fun cell => Decimal.ofInt (number cell)) → first = second := by
  refine ⟨?_, fun _ _ => eq_of_display_eq, ?_⟩
  · intro layout
    rw [← length_cells]
    refine ⟨length_display layout, ?_⟩
    intro i _
    refine ⟨getElem?_display_two_mul layout i, ?_⟩
    intro between
    rw [getElem?_display_two_mul_add_one, if_pos between, separatorBehind]
  · intro α number injective first second same
    exact render_ofInt_injective injective same

/-- A layout with a key for each separator. -/
def separatorKeys : Layout where
  rows := [[' ', '\n', 'a', 'b'], ['c', 'd', 'e', 'f']]
  width := 4
  rows_ne_nil := by decide
  width_pos := by decide
  length_of_mem := by decide
  nodup := by decide

def signedBytes : Grid (BitVec 8) where
  rows := [[0x80, 0xff, 0, 1]]
  width := 4
  rows_ne_nil := by decide
  width_pos := by decide
  length_of_mem := by decide
  nodup := by decide

/-- Keys that are separators themselves stand where keys stand.  Rotations by one and by three lead
back, as the texts tell. -/
theorem text_determines_grid_separators :
    separatorKeys.display.toList[2 * 1]? = some '\n' ∧
      (1 < separatorKeys.height * separatorKeys.width ∧
        separatorKeys.display.toList[2 * 1 + 1]? = some ' ') ∧
      Operation.applyAll [.rotate 1, .rotate 3] separatorKeys = separatorKeys ∧
      Function.Injective (fun byte : BitVec 8 => byte.toInt) ∧
      Operation.applyAll [.rotate 1, .rotate 3] signedBytes = signedBytes := by
  obtain ⟨texts, keys, numbers⟩ := text_determines_grid
  obtain ⟨key, behind⟩ := (texts separatorKeys).2 1 (by decide)
  have injective : Function.Injective fun byte : BitVec 8 => byte.toInt :=
    fun _ _ => BitVec.toInt_inj.mp
  refine ⟨key, ⟨by decide, behind (by decide)⟩, keys _ _ ?_, injective,
    numbers _ _ injective _ _ ?_⟩
  · decide +kernel
  · decide +kernel

end LayoutCipher.Grid
