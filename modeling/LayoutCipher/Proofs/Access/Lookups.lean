import LayoutCipher.Proofs.Access.Grids
import LayoutCipher.Proofs.Grid.Lookup

/-!
# Looking up in one array

Where the cells of a grid are kept in one array, a cell stands at an offset that its coordinate
gives, a row is a slice, and the coordinate of a cell is its place split by the number of columns.
On the array of a grid these accesses meet no trap and find what the grid has.  So whatever is
reached from rows that were accepted keeps their shape and their cells, and there all ways to look
up agree.
-/

namespace LayoutCipher.Stored

open Guarded

variable {α : Type}

/-- The cell at a coordinate, if it lies within the numbers of rows and columns. -/
def get? (s : Stored α) (place : Grid.Coordinate) : Option α :=
  if place.row < s.rows ∧ place.column < s.columns then
    s.cells[place.row * s.columns + place.column]?
  else none

/-- A row.  To ask for one that is not there is a fault of the caller, found out before anything is
cut. -/
def row (s : Stored α) (r : Nat) : Guarded (Except Grid.AccessFault (List α)) :=
  if r < s.rows then do
    let cells ← slice s.cells (r * s.columns) ((r + 1) * s.columns)
    return .ok cells
  else return .error .rowOutOfBounds

/-- All rows, copied out of the array. -/
def toRows (s : Stored α) : Guarded (List (List α)) :=
  s.iterRows

section

variable [DecidableEq α]

def contains (s : Stored α) (cell : α) : Bool :=
  s.cells.contains cell

/-- The coordinate of a cell: its place in the array, split by the number of columns. -/
def positionOf? (s : Stored α) (cell : α) : Guarded (Option Grid.Coordinate) :=
  match s.cells.idxOf? cell with
  | none => return none
  | some i => do
      let (row, column) ← divMod i s.columns
      return some ⟨row, column⟩

end

/-! ## Arrays of grids -/

theorem get?_stored (g : Grid α) (place : Grid.Coordinate) : g.stored.get? place = g.get? place := by
  unfold get?
  split
  · next inside => exact (g.get?_eq_getElem?_cells inside.2).symm
  · next outside =>
      cases found : g.get? place with
      | none => rfl
      | some cell => exact absurd (Grid.reaches_of_get?_eq_some found) outside

theorem row_stored (g : Grid α) (r : Nat) : g.stored.row r = .ok (g.row r) := by
  unfold row
  split
  · next inside =>
      have fits : (r + 1) * g.stored.columns ≤ g.stored.cells.length := by
        rw [show g.stored.cells.length = g.height * g.width from g.length_cells]
        exact Nat.mul_le_mul_right g.width inside
      have ordered : r * g.stored.columns ≤ (r + 1) * g.stored.columns :=
        Nat.mul_le_mul_right _ (Nat.le_succ r)
      rw [slice_of_le ordered fits, ok_bind, g.row_eq_ok inside, List.drop_take, Nat.succ_mul,
        Nat.add_sub_cancel_left]
      rfl
  · next outside =>
      have missing : g.rows[r]? = none := List.getElem?_eq_none (Nat.le_of_not_lt outside)
      rw [Grid.row, missing]
      rfl

theorem toRows_stored (g : Grid α) : g.stored.toRows = .ok g.rows :=
  iterRows_stored g

section

variable [DecidableEq α]

theorem contains_stored (g : Grid α) (cell : α) : g.stored.contains cell = g.contains cell :=
  rfl

theorem positionOf?_stored (g : Grid α) (cell : α) :
    g.stored.positionOf? cell = .ok (g.positionOf? cell) := by
  rw [positionOf?, Grid.positionOf?, show g.stored.cells = g.cells from rfl]
  cases g.cells.idxOf? cell with
  | none => rfl
  | some i =>
      have split : divMod i g.stored.columns = .ok (i / g.width, i % g.width) :=
        divMod_of_pos i g.width_pos
      simp [split]

/-! ## Arrays that are reached -/

theorem Reaches.exists_grid {rows : List (List α)} {built : Grid α} {s : Stored α}
    (accepted : Grid.ofRows rows = .ok built) (reaches : (ofRows rows).Reaches s) :
    ∃ reached, built.Rearranges reached ∧ s = reached.stored := by
  rw [← stored_eq_ofRows accepted] at reaches
  obtain ⟨reached, reachable, same⟩ := reaches.exists_reachable
  exact ⟨reached, reachable.rearranges, same⟩

/-- What is reached from accepted rows has as many rows and columns as they, at least one of each,
and their cells in some order, none of them twice.  Its rows come out as pieces of the array, and
would be accepted and stored as they are again.  A cipher that cannot be read fails on it as it
fails anywhere, and one that can be read leads on to what is reached as well. -/
theorem Reaches.shape_and_cells {rows : List (List α)} {built : Grid α} {s : Stored α}
    (accepted : Grid.ofRows rows = .ok built) (reaches : (ofRows rows).Reaches s) :
    (s.rows = rows.length ∧ 1 ≤ s.rows) ∧
    (s.columns = (rows.headD []).length ∧ 1 ≤ s.columns) ∧
    s.cells.length = s.rows * s.columns ∧
    s.cells.Nodup ∧ s.cells.Perm rows.flatten ∧
    (∃ reached cut, s.toRows = .ok cut ∧ cut.flatten = s.cells ∧ ofRows cut = s ∧
      Grid.ofRows cut = .ok reached ∧
      ∀ r < s.rows, cut[r]? = some ((s.cells.drop (r * s.columns)).take s.columns)) ∧
    ∀ cipher,
      (∀ fault, (Cipher.parse cipher).outcome = .error fault →
        s.transform cipher = .ok (.error fault)) ∧
      ∀ operations, (Cipher.parse cipher).outcome = .ok operations →
        ∃ next, s.transform cipher = .ok (.ok next) ∧ (ofRows rows).Reaches next := by
  have stored := stored_eq_ofRows accepted
  obtain ⟨reached, kept, rfl⟩ := reaches.exists_grid accepted
  have transformed (cipher : String) := transform_stored reached cipher
  simp only [Grid.outcome_transform] at transformed
  have rows_eq : reached.stored.rows = (ofRows rows).rows := by
    rw [← stored]
    exact kept.height_eq
  have columns_eq : reached.stored.columns = (ofRows rows).columns := by
    rw [← stored]
    exact kept.width_eq
  have again := Grid.ofRows_rows reached
  refine ⟨⟨rows_eq, reached.height_pos⟩, ⟨columns_eq, reached.width_pos⟩, reached.length_cells,
    reached.nodup, ?_, ⟨reached, reached.rows, toRows_stored reached, rfl,
    (stored_eq_ofRows again).symm, again, fun r inside => reached.getElem?_rows inside⟩,
    fun cipher => ⟨fun fault failed => ?_, fun operations read => ?_⟩⟩
  · rw [← Grid.rows_eq_of_ofRows_eq_ok accepted]
    exact kept.cells_perm
  · rw [transformed, failed]
    rfl
  · rw [transformed, read]
    exact ⟨_, rfl, reaches.applyAll operations⟩

/-- On what is reached from accepted rows the ways to look up agree.  The index has an entry for
every cell, and the coordinate that the search finds; the search finds the cells of the rows, each
at the one coordinate that has it; a coordinate has a cell if it lies within the numbers of rows and
columns, the same in its row; and the rows come one by one. -/
theorem Reaches.lookups {rows : List (List α)} {built : Grid α} {s : Stored α}
    (accepted : Grid.ofRows rows = .ok built) (reaches : (ofRows rows).Reaches s) :
    (∃ entries, s.index = .ok entries ∧ entries.length = s.rows * s.columns ∧
      entries.map Prod.fst = s.cells ∧
      ∀ cell, s.positionOf? cell = .ok (entries.lookup cell)) ∧
    (∀ cell, (s.contains cell ↔ ∃ row ∈ rows, cell ∈ row) ∧
      (s.contains cell ↔ s.positionOf? cell ≠ .ok none) ∧
      ∀ place, s.positionOf? cell = .ok (some place) ↔ s.get? place = some cell) ∧
    (∀ r j, (s.get? ⟨r, j⟩).isSome ↔ r < s.rows ∧ j < s.columns) ∧
    (∀ r < s.rows, ∃ cells, s.row r = .ok (.ok cells) ∧ cells.length = s.columns ∧
      ∀ j, cells[j]? = s.get? ⟨r, j⟩) ∧
    (∀ r, s.rows ≤ r → s.row r = .ok (.error .rowOutOfBounds)) ∧
    ∃ cut, s.toRows = .ok cut ∧
      cut.map (fun cells => Except.ok (.ok cells)) = (List.range s.rows).map s.row := by
  obtain ⟨reached, kept, rfl⟩ := reaches.exists_grid accepted
  simp only [get?_stored, row_stored, positionOf?_stored, contains_stored, ne_eq,
    Except.ok.injEq]
  refine ⟨⟨reached.index, index_stored reached, reached.length_index, reached.map_fst_index,
    fun cell => (reached.lookup_index_eq_positionOf? cell).symm⟩, fun cell => ⟨?_, ?_, fun _ =>
    Grid.positionOf?_eq_some_iff⟩, fun r j => reached.isSome_get?_iff ⟨r, j⟩, ?_, ?_,
    reached.rows, toRows_stored reached, ?_⟩
  · rw [Grid.contains_iff_mem, kept.mem_cells_iff, Grid.cells,
      Grid.rows_eq_of_ofRows_eq_ok accepted, List.mem_flatten]
  · rw [Grid.contains_iff_mem, ← Grid.isSome_positionOf?_iff, Option.isSome_iff_ne_none]
  · intro r inside
    have found := reached.row_eq_ok inside
    refine ⟨_, found, ?_, Grid.getElem?_row found⟩
    exact reached.length_of_mem _ (List.mem_of_getElem? (reached.getElem?_rows inside))
  · intro r outside
    rw [Grid.row, List.getElem?_eq_none outside]
  · have rowwise : reached.stored.row = .ok ∘ reached.row := funext (row_stored reached)
    change _ = (List.range reached.height).map reached.stored.row
    rw [rowwise, ← List.map_map, reached.map_row_range, List.map_map]
    rfl

end

-- A row that is not there is not cut out of the cells that are.
example : (⟨1, 2, ['A', 'B']⟩ : Stored Char).row 1 = .ok (.error .rowOutOfBounds) :=
  rfl

end LayoutCipher.Stored
