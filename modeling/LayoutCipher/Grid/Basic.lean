/-!
# Grids

A grid is a rectangular arrangement of distinct cells.  The shape and the distinctness of the
cells are part of the type, so every operation on grids has to preserve them.

`Grid.ofRows` builds a grid from its rows or reports the first `Grid.Defect`, reading the rows
from top to bottom: of each row first the length, then the cells from left to right.
-/

namespace LayoutCipher

/-- A rectangular arrangement of distinct cells, row by row from top to bottom. -/
structure Grid (α : Type) where
  rows : List (List α)
  width : Nat
  rows_ne_nil : rows ≠ []
  width_pos : 0 < width
  length_of_mem : ∀ row ∈ rows, row.length = width
  nodup : rows.flatten.Nodup

namespace Grid

variable {α : Type}

def height (g : Grid α) : Nat :=
  g.rows.length

/-- All cells in reading order. -/
def cells (g : Grid α) : List α :=
  g.rows.flatten

theorem height_pos (g : Grid α) : 0 < g.height :=
  List.length_pos_iff.mpr g.rows_ne_nil

/-- The rows determine a grid: its width is the length of any row. -/
@[ext]
theorem ext {g h : Grid α} (rows_eq : g.rows = h.rows) : g = h := by
  have widths : g.width = h.width := by
    obtain ⟨row, mem⟩ := List.exists_mem_of_ne_nil g.rows g.rows_ne_nil
    rw [← g.length_of_mem row mem, h.length_of_mem row (rows_eq ▸ mem)]
  cases g
  cases h
  simp_all

instance [DecidableEq α] : DecidableEq (Grid α) := fun g h =>
  decidable_of_iff (g.rows = h.rows) ⟨Grid.ext, fun eq => eq ▸ rfl⟩

/-! ## Defects -/

/-- What keeps a list of rows from being a grid. -/
inductive Defect where
  | empty
  | emptyRow (row : Nat)
  | ragged (row expected found : Nat)
  | duplicateCell (row column : Nat)
  deriving DecidableEq, Repr

def Defect.message : Defect → String
  | .empty => "Layout must contain at least one row"
  | .emptyRow row => s!"Layout row {row} is empty"
  | .ragged row expected found =>
      s!"Layout row {row} has {found} cells, expected {expected}"
  | .duplicateCell row column =>
      s!"Layout cell at row {row}, column {column} duplicates an earlier cell"

variable [DecidableEq α]

/-- The column of the first cell that repeats a cell of `seen` or of the row to its left. -/
def firstRepeat? (seen : List α) : List α → Option Nat
  | [] => none
  | cell :: rest =>
      if cell ∈ seen then some 0
      else (firstRepeat? (seen ++ [cell]) rest).map (· + 1)

/-- The first defect of the rows from number `row` on, where `seen` holds the cells above. -/
def firstDefectFrom? (width : Nat) (row : Nat) (seen : List α) :
    List (List α) → Option Defect
  | [] => none
  | cells :: rest =>
      if cells = [] then some (.emptyRow row)
      else if cells.length ≠ width then some (.ragged row width cells.length)
      else
        match firstRepeat? seen cells with
        | some column => some (.duplicateCell row column)
        | none => firstDefectFrom? width (row + 1) (seen ++ cells) rest

/-- The first defect of a list of rows; every row is measured against the first. -/
def firstDefect? : List (List α) → Option Defect
  | [] => some .empty
  | first :: rest => firstDefectFrom? first.length 0 [] (first :: rest)

theorem firstRepeat?_eq_none {seen cells : List α} (seen_nodup : seen.Nodup)
    (none : firstRepeat? seen cells = none) : (seen ++ cells).Nodup := by
  induction cells generalizing seen with
  | nil => simpa using seen_nodup
  | cons cell rest ih =>
      by_cases mem : cell ∈ seen
      · simp [firstRepeat?, mem] at none
      · simp only [firstRepeat?, mem, if_false, Option.map_eq_none_iff] at none
        have grown : (seen ++ [cell]).Nodup := by
          rw [List.nodup_append]
          refine ⟨seen_nodup, by simp, ?_⟩
          intro a ha b hb
          obtain rfl : b = cell := by simpa using hb
          exact fun eq => mem (eq ▸ ha)
        simpa using ih grown none

theorem firstDefectFrom?_eq_none {width row : Nat} {seen : List α} {rows : List (List α)}
    (seen_nodup : seen.Nodup) (none : firstDefectFrom? width row seen rows = none) :
    (∀ cells ∈ rows, cells ≠ [] ∧ cells.length = width) ∧
      (seen ++ rows.flatten).Nodup := by
  induction rows generalizing row seen with
  | nil => simpa using seen_nodup
  | cons cells rest ih =>
      by_cases isEmpty : cells = []
      · simp [firstDefectFrom?, isEmpty] at none
      by_cases fits : cells.length = width
      · cases repeated : firstRepeat? seen cells with
        | some column => simp [firstDefectFrom?, isEmpty, fits, repeated] at none
        | none =>
            simp only [firstDefectFrom?, isEmpty, fits, repeated, ne_eq, not_true_eq_false,
              if_false] at none
            obtain ⟨shape, distinct⟩ := ih (firstRepeat?_eq_none seen_nodup repeated) none
            refine ⟨?_, by simpa using distinct⟩
            intro other mem
            rcases List.mem_cons.mp mem with rfl | mem
            · exact ⟨isEmpty, fits⟩
            · exact shape other mem
      · simp [firstDefectFrom?, isEmpty, fits] at none

theorem firstDefect?_eq_none {rows : List (List α)} (none : firstDefect? rows = none) :
    rows ≠ [] ∧ (∀ cells ∈ rows, cells ≠ [] ∧ cells.length = (rows.headD []).length) ∧
      rows.flatten.Nodup := by
  cases rows with
  | nil => simp [firstDefect?] at none
  | cons first rest =>
      obtain ⟨shape, distinct⟩ := firstDefectFrom?_eq_none List.nodup_nil none
      exact ⟨List.cons_ne_nil first rest, shape, by simpa using distinct⟩

/-- The grid with the given rows, or their first defect. -/
def ofRows (rows : List (List α)) : Except Defect (Grid α) :=
  match found : firstDefect? rows with
  | some defect => .error defect
  | none =>
      have sound := firstDefect?_eq_none found
      .ok
        { rows
          width := (rows.headD []).length
          rows_ne_nil := sound.1
          width_pos := by
            cases rows with
            | nil => exact absurd rfl sound.1
            | cons first rest =>
                exact List.length_pos_iff.mpr (sound.2.1 first List.mem_cons_self).1
          length_of_mem := fun row mem => (sound.2.1 row mem).2
          nodup := sound.2.2 }

end Grid

end LayoutCipher
