import LayoutCipher.Proofs.Grid.Index
import LayoutCipher.Proofs.Grid.Reachable

/-!
# Agreement of the ways to look up

Cells are found by coordinate, in a row, or in the list of all cells; coordinates are found in the
index, or by a search through all cells whose result is divided by the width.  On every grid these
ways agree, because no cell is there twice and every row is as long as the width: the place in
reading order and the coordinate determine each other.
-/

namespace LayoutCipher.Grid

variable {α : Type}

/-! ## Rows -/

theorem row_eq_ok (g : Grid α) {r : Nat} (inside : r < g.height) :
    g.row r = .ok ((g.cells.drop (r * g.width)).take g.width) := by
  rw [row, g.getElem?_rows inside]

theorem getElem?_row {g : Grid α} {r : Nat} {cells : List α} (found : g.row r = .ok cells)
    (j : Nat) : cells[j]? = g.get? ⟨r, j⟩ := by
  rw [row] at found
  rw [get?_eq_bind]
  cases here : g.rows[r]? with
  | none => simp [here] at found
  | some others =>
      obtain rfl : others = cells := by simpa [here] using found
      rfl

/-- The rows, taken one after the other, are those that are found by their numbers. -/
theorem map_row_range (g : Grid α) : (List.range g.height).map g.row = g.rows.map .ok := by
  apply List.ext_getElem
  · simp [height]
  · intro r _ inside
    have inside : r < g.rows.length := by simpa using inside
    simp [row, inside]

/-! ## Coordinates of cells -/

/-- The index lists the cells in reading order. -/
theorem map_fst_index (g : Grid α) : g.index.map Prod.fst = g.cells := by
  rw [index, List.map_flatten, List.map_map, cells]
  congr 1
  calc g.rows.zipIdx.map _
      = g.rows.zipIdx.map Prod.fst := by
        refine List.map_congr_left ?_
        rintro ⟨row, r⟩ _
        simp [Function.comp_def]
    _ = g.rows := List.zipIdx_map_fst 0 g.rows

theorem length_index (g : Grid α) : g.index.length = g.height * g.width := by
  rw [← g.length_cells, ← g.map_fst_index, List.length_map]

/-- The place in reading order, divided by the width, leads back to the cell. -/
theorem get?_div_mod (g : Grid α) (i : Nat) : g.get? ⟨i / g.width, i % g.width⟩ = g.cells[i]? := by
  rw [get?_eq_getElem?_cells g (Nat.mod_lt i g.width_pos)]
  dsimp only
  rw [Nat.div_add_mod']

variable [DecidableEq α]

theorem positionOf?_eq_some_iff {g : Grid α} {cell : α} {place : Coordinate} :
    g.positionOf? cell = some place ↔ g.get? place = some cell := by
  have sound {found : Coordinate} (searched : g.positionOf? cell = some found) :
      g.get? found = some cell := by
    obtain ⟨i, first, rfl⟩ := Option.map_eq_some_iff.mp searched
    obtain ⟨inside, same, _⟩ := List.idxOf?_eq_some_iff.mp first
    rw [get?_div_mod, List.getElem?_eq_getElem inside, same]
  constructor
  · exact sound
  · intro here
    have mem : cell ∈ g.cells := mem_cells_iff_exists_get?.mpr ⟨place, here⟩
    -- the search finds some coordinate, and the cell stands at no other
    cases searched : g.positionOf? cell with
    | none => simp [positionOf?, mem] at searched
    | some found => rw [get?_injective (sound searched) here]

theorem lookup_index_eq_positionOf? (g : Grid α) (cell : α) :
    g.index.lookup cell = g.positionOf? cell := by
  apply Option.ext
  intro place
  rw [lookup_index_eq_some_iff, positionOf?_eq_some_iff]

theorem contains_iff_mem {g : Grid α} {cell : α} : g.contains cell ↔ cell ∈ g.cells := by
  simp [contains]

theorem isSome_positionOf?_iff {g : Grid α} {cell : α} :
    (g.positionOf? cell).isSome ↔ cell ∈ g.cells := by
  simp only [Option.isSome_iff_exists, positionOf?_eq_some_iff, mem_cells_iff_exists_get?]

/-! ## Agreement -/

/-- On every grid that can be reached the ways to look up agree.  Its index has one entry for each
cell and the coordinates that the search finds; the search finds the cells that were there from the
start, each at the one coordinate that has it; a coordinate has a cell if it lies on the grid, the
same in its row and in the list of all cells; and the rows come one by one, from either end. -/
theorem lookups_agree {rows : List (List α)} {built reached : Grid α}
    (accepted : ofRows rows = .ok built) (reachable : built.Reachable reached) :
    (reached.index.length = reached.height * reached.width ∧
      (reached.index.map Prod.fst).Nodup ∧ reached.height = rows.length) ∧
    (∀ cell, reached.index.lookup cell = reached.positionOf? cell ∧
      (reached.contains cell ↔ (reached.positionOf? cell).isSome) ∧
      (reached.contains cell ↔ ∃ row ∈ rows, cell ∈ row) ∧
      ∀ place, reached.positionOf? cell = some place ↔ reached.get? place = some cell) ∧
    (∀ r j, (reached.get? ⟨r, j⟩).isSome ↔ r < reached.height ∧ j < reached.width) ∧
    (∀ r < reached.height, ∃ cells, reached.row r = .ok cells ∧ cells.length = reached.width ∧
      ∀ j < reached.width, cells[j]? = reached.get? ⟨r, j⟩ ∧
        reached.get? ⟨r, j⟩ = reached.cells[r * reached.width + j]?) ∧
    reached.rows.map .ok = (List.range reached.height).map reached.row ∧
    reached.rows.reverse.map .ok = (List.range reached.height).reverse.map reached.row := by
  have kept := reachable.rearranges
  have rows_eq := rows_eq_of_ofRows_eq_ok accepted
  refine ⟨⟨reached.length_index, reached.map_fst_index ▸ reached.nodup, ?_⟩, ?_,
    fun r j => reached.isSome_get?_iff ⟨r, j⟩, ?_, reached.map_row_range.symm, ?_⟩
  · rw [kept.height_eq, height, rows_eq]
  · intro cell
    refine ⟨reached.lookup_index_eq_positionOf? cell, ?_, ?_, fun _ => positionOf?_eq_some_iff⟩
    · rw [contains_iff_mem, isSome_positionOf?_iff]
    · rw [contains_iff_mem, kept.mem_cells_iff, cells, rows_eq, List.mem_flatten]
  · intro r inside
    have found := reached.row_eq_ok inside
    refine ⟨_, found, ?_, fun j column_lt => ?_⟩
    · exact reached.length_of_mem _ (List.mem_of_getElem? (reached.getElem?_rows inside))
    · exact ⟨getElem?_row found j, reached.get?_eq_getElem?_cells column_lt⟩
  · rw [List.map_reverse, List.map_reverse, reached.map_row_range]

/-- On the built-in layout, turned around and shifted, the index has forty entries; the search and
the index find `D` where the third row ends. -/
theorem lookups_agree_qwerty :
    ofRows Layout.qwerty.rows = .ok Layout.qwerty ∧
      ∃ reached, Layout.qwerty.Reachable reached ∧ reached.index.length = 40 ∧
        reached.positionOf? 'D' = some ⟨2, 9⟩ ∧ reached.index.lookup 'D' = some ⟨2, 9⟩ ∧
        ∃ cells, reached.row 2 = .ok cells ∧ cells.length = 10 ∧ cells[9]? = some 'D' := by
  have accepted := ofRows_rows Layout.qwerty
  have flipped : Layout.qwerty.Reachable _ := Reachable.built.apply .horizontalFlip
  have reachable := flipped.apply (.rotate 2)
  obtain ⟨⟨length_eq, _⟩, finds, _, rowFound, _⟩ := lookups_agree accepted reachable
  obtain ⟨lookup_eq, _, _, position⟩ := finds 'D'
  have found := (position ⟨2, 9⟩).mpr rfl
  obtain ⟨cells, row_eq, width_eq, inRow⟩ := rowFound 2 (by decide)
  exact ⟨accepted, _, reachable, length_eq, found, lookup_eq.trans found, cells, row_eq, width_eq,
    (inRow 9 (by decide)).1⟩

end LayoutCipher.Grid
