import LayoutCipher.Grid.Lookup
import Mathlib.Data.List.Nodup

/-!
# Cells by coordinate

A grid reaches the coordinates below its height and its width.  It has a cell exactly where it
reaches, every cell at one coordinate only, and it is determined by its shape and these cells.
-/

namespace LayoutCipher.Grid

variable {α : Type}

/-- A coordinate lies on a grid. -/
def Reaches (g : Grid α) (place : Coordinate) : Prop :=
  place.row < g.height ∧ place.column < g.width

theorem get?_eq_bind (g : Grid α) (place : Coordinate) :
    g.get? place = g.rows[place.row]?.bind (·[place.column]?) := by
  unfold get?
  cases g.rows[place.row]? <;> rfl

theorem length_getElem_rows (g : Grid α) {r : Nat} (inside : r < g.rows.length) :
    g.rows[r].length = g.width :=
  g.length_of_mem _ (List.getElem_mem inside)

/-- A grid has a cell at a coordinate exactly if it reaches that far. -/
theorem isSome_get?_iff (g : Grid α) (place : Coordinate) :
    (g.get? place).isSome ↔ g.Reaches place := by
  rw [get?_eq_bind]
  by_cases inside : place.row < g.rows.length
  · have width := g.length_getElem_rows inside
    simp [Reaches, height, inside, width]
  · simp [Reaches, height, inside]

theorem exists_get?_eq_some {g : Grid α} {place : Coordinate} (reached : g.Reaches place) :
    ∃ cell, g.get? place = some cell :=
  Option.isSome_iff_exists.mp ((g.isSome_get?_iff place).mpr reached)

theorem get?_eq_some_iff {g : Grid α} {place : Coordinate} {cell : α} :
    g.get? place = some cell ↔
      ∃ cells, g.rows[place.row]? = some cells ∧ cells[place.column]? = some cell := by
  rw [get?_eq_bind, Option.bind_eq_some_iff]

theorem reaches_of_get?_eq_some {g : Grid α} {place : Coordinate} {cell : α}
    (found : g.get? place = some cell) : g.Reaches place :=
  (g.isSome_get?_iff place).mp (Option.isSome_of_eq_some found)

theorem mem_cells_iff_exists_get? {g : Grid α} {cell : α} :
    cell ∈ g.cells ↔ ∃ place, g.get? place = some cell := by
  rw [cells, List.mem_flatten]
  simp only [List.mem_iff_getElem?, get?_eq_some_iff]
  constructor
  · rintro ⟨row, ⟨r, rowFound⟩, j, cellFound⟩
    exact ⟨⟨r, j⟩, row, rowFound, cellFound⟩
  · rintro ⟨⟨r, j⟩, row, rowFound, cellFound⟩
    exact ⟨row, ⟨r, rowFound⟩, j, cellFound⟩

theorem getElem?_flatten {rows : List (List α)} {width : Nat}
    (length_eq : ∀ cells ∈ rows, cells.length = width) (r : Nat) {j : Nat} (j_lt : j < width) :
    rows.flatten[r * width + j]? = rows[r]?.bind (·[j]?) := by
  induction rows generalizing r with
  | nil => simp
  | cons cells rest ih =>
      have first : cells.length = width := length_eq cells List.mem_cons_self
      cases r with
      | zero => simp [List.getElem?_append_left (first.symm ▸ j_lt)]
      | succ r =>
          have later : (r + 1) * width + j = cells.length + (r * width + j) := by
            rw [first, Nat.succ_mul]
            omega
          rw [List.flatten_cons, later, List.getElem?_append_right (Nat.le_add_right ..),
            Nat.add_sub_cancel_left, List.getElem?_cons_succ]
          exact ih (fun other mem => length_eq other (List.mem_cons_of_mem cells mem)) r

/-- Cells stand in reading order: behind all rows above, and behind the cells to the left. -/
theorem get?_eq_getElem?_cells (g : Grid α) {place : Coordinate}
    (column_lt : place.column < g.width) :
    g.get? place = g.cells[place.row * g.width + place.column]? := by
  rw [get?_eq_bind, cells, getElem?_flatten g.length_of_mem place.row column_lt]

/-- Rows of one length can be cut out of the list of all cells again. -/
theorem take_drop_flatten {rows : List (List α)} {width : Nat}
    (length_eq : ∀ cells ∈ rows, cells.length = width) {r : Nat} (inside : r < rows.length) :
    (rows.flatten.drop (r * width)).take width = rows[r] := by
  induction rows generalizing r with
  | nil => cases inside
  | cons cells rest ih =>
      have first : cells.length = width := length_eq cells List.mem_cons_self
      cases r with
      | zero => simp [← first]
      | succ r =>
          have later : (r + 1) * width = cells.length + r * width := by
            rw [first, Nat.succ_mul, Nat.add_comm]
          rw [List.flatten_cons, later, List.drop_append, ← List.drop_drop, List.drop_length]
          simpa using ih (fun other mem => length_eq other (List.mem_cons_of_mem cells mem))
            (Nat.lt_of_succ_lt_succ inside)

theorem getElem?_rows (g : Grid α) {r : Nat} (inside : r < g.height) :
    g.rows[r]? = some ((g.cells.drop (r * g.width)).take g.width) := by
  rw [cells, take_drop_flatten g.length_of_mem inside]
  exact List.getElem?_eq_getElem inside

theorem length_cells (g : Grid α) : g.cells.length = g.height * g.width := by
  rw [cells, List.length_flatten, height]
  have widths : g.rows.map List.length = List.replicate g.rows.length g.width := by
    rw [List.eq_replicate_iff]
    refine ⟨List.length_map _, ?_⟩
    intro n mem
    obtain ⟨cells, cells_mem, rfl⟩ := List.mem_map.mp mem
    exact g.length_of_mem cells cells_mem
  rw [widths, List.sum_replicate_nat]

theorem offset_div_mod {width j : Nat} (j_lt : j < width) (r : Nat) :
    (r * width + j) / width = r ∧ (r * width + j) % width = j :=
  (Nat.div_mod_unique (Nat.zero_lt_of_lt j_lt)).mpr ⟨by rw [Nat.mul_comm, Nat.add_comm], j_lt⟩

/-- No cell stands at two coordinates. -/
theorem get?_injective {g : Grid α} {first second : Coordinate} {cell : α}
    (here : g.get? first = some cell) (there : g.get? second = some cell) : first = second := by
  obtain ⟨_, column_lt⟩ := reaches_of_get?_eq_some here
  obtain ⟨_, column_lt'⟩ := reaches_of_get?_eq_some there
  rw [get?_eq_getElem?_cells g column_lt] at here
  rw [get?_eq_getElem?_cells g column_lt'] at there
  obtain ⟨inside, here⟩ := List.getElem?_eq_some_iff.mp here
  obtain ⟨inside', there⟩ := List.getElem?_eq_some_iff.mp there
  have offsets := g.nodup.getElem_inj_iff.mp (here.trans there.symm)
  -- row and column are the quotient and the remainder of the place in reading order
  obtain ⟨row, column⟩ := offset_div_mod column_lt first.row
  rw [offsets, (offset_div_mod column_lt' second.row).1] at row
  rw [offsets, (offset_div_mod column_lt' second.row).2] at column
  cases first
  cases second
  simp_all

/-- Grids of one shape with the same cell at every coordinate are equal. -/
theorem ext_get? {g h : Grid α} (height_eq : g.height = h.height) (width_eq : g.width = h.width)
    (get?_eq : ∀ place, g.Reaches place → g.get? place = h.get? place) : g = h := by
  apply Grid.ext
  apply List.ext_getElem height_eq
  intro r inside inside'
  apply List.ext_getElem
  · rw [length_getElem_rows g inside, length_getElem_rows h inside', width_eq]
  · intro j here there
    have reached : g.Reaches ⟨r, j⟩ := ⟨inside, g.length_getElem_rows inside ▸ here⟩
    simpa [get?_eq_bind, inside, inside', here, there] using get?_eq ⟨r, j⟩ reached

theorem width_le_length_cells (g : Grid α) : g.width ≤ g.cells.length := by
  rw [length_cells]
  exact Nat.le_mul_of_pos_left g.width g.height_pos

/-- Grids of one width with the same cells in reading order are equal. -/
theorem ext_cells {g h : Grid α} (width_eq : g.width = h.width) (cells_eq : g.cells = h.cells) :
    g = h := by
  have sizes := g.length_cells
  rw [cells_eq, h.length_cells, width_eq] at sizes
  refine ext_get? (Nat.eq_of_mul_eq_mul_right h.width_pos sizes).symm width_eq ?_
  intro place reached
  rw [get?_eq_getElem?_cells g reached.2, get?_eq_getElem?_cells h (width_eq ▸ reached.2),
    cells_eq, width_eq]

end LayoutCipher.Grid
