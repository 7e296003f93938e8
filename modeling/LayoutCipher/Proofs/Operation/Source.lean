import LayoutCipher.Operation.Apply
import LayoutCipher.Proofs.Grid.Cells
import Mathlib.Data.List.Rotate
import Mathlib.Tactic.Ring

/-!
# Where operations take their cells from

An operation puts at every coordinate a cell that stood at some coordinate before.  `source` names
that coordinate by arithmetic on rows and columns, and `get?_apply` shows that this is what the
operation on rows does.
-/

namespace LayoutCipher

open Grid (Coordinate)

variable {α : Type}

/-! ## Rows -/

namespace Grid

theorem get?_mapRows (g : Grid α) (f : List α → List α) (perm : ∀ cells, (f cells).Perm cells)
    (place : Coordinate) :
    (g.mapRows f perm).get? place =
      g.rows[place.row]?.bind fun cells => (f cells)[place.column]? := by
  rw [get?_eq_bind]
  simp only [mapRows, List.getElem?_map]
  cases g.rows[place.row]? <;> rfl

/-- A rotation to the right is a rotation to the left by what is missing to the whole length. -/
theorem rotateRight_eq_rotate (cells : List α) (offset : Nat) :
    cells.rotateRight offset = cells.rotate (cells.length - offset % cells.length) := by
  match cells with
  | [] => simp
  | [cell] => simp [List.rotateRight]
  | first :: second :: rest =>
    simp [List.rotateRight, List.rotate_eq_drop_append_take]

end Grid

/-! ## One operation -/

namespace Operation

/-- The coordinate from which an operation takes the cell that it puts at `place`. -/
def source (height width : Nat) (place : Coordinate) : Operation → Coordinate
  | .horizontalFlip => ⟨place.row, width - 1 - place.column⟩
  | .verticalFlip => ⟨height - 1 - place.row, place.column⟩
  | .rotate amount => ⟨place.row, ((place.column - amount.toInt) % width).toNat⟩

@[simp]
theorem height_apply (operation : Operation) (g : Grid α) :
    (operation.apply g).height = g.height := by
  cases operation <;> simp [Grid.height]

theorem add_sub_rotationOffset_mod (amount : Int64) {width : Nat} (width_pos : 0 < width)
    (column : Nat) :
    (column + (width - rotationOffset amount width)) % width =
      ((column - amount.toInt) % width).toNat := by
  have bound := rotationOffset_lt amount width_pos
  have offset : (rotationOffset amount width : Int) = amount.toInt % width :=
    Int.toNat_of_nonneg (Int.emod_nonneg _ (by omega))
  -- both sides count the same number of columns back, up to whole widths
  have congruent : (column : Int) + (width - amount.toInt % width) =
      column - amount.toInt + width * (1 + amount.toInt / width) := by
    rw [Int.emod_def]
    ring
  rw [← Int.toNat_natCast ((column + _) % width)]
  push_cast [Nat.cast_sub bound.le]
  rw [offset, congruent, Int.add_mul_emod_self_left]

theorem source_reached (operation : Operation) (g : Grid α) {place : Coordinate}
    (reached : g.Reaches place) : g.Reaches (operation.source g.height g.width place) := by
  obtain ⟨row_lt, column_lt⟩ := reached
  cases operation with
  | horizontalFlip => exact ⟨row_lt, by simp only [source]; omega⟩
  | verticalFlip => exact ⟨by simp only [source]; omega, column_lt⟩
  | rotate amount =>
      refine ⟨row_lt, ?_⟩
      have bound := Int.emod_lt_of_pos (place.column - amount.toInt)
        (Int.natCast_pos.mpr g.width_pos)
      simp only [source]
      omega

/-- An operation puts at every coordinate of a grid the cell of its source. -/
theorem get?_apply (operation : Operation) (g : Grid α) {place : Coordinate}
    (reached : g.Reaches place) :
    (operation.apply g).get? place = g.get? (operation.source g.height g.width place) := by
  obtain ⟨row_lt, column_lt⟩ := reached
  have width := g.length_getElem_rows row_lt
  have inside : place.column < g.rows[place.row].length := width.symm ▸ column_lt
  cases operation with
  | horizontalFlip =>
      rw [apply, Grid.get?_mapRows, Grid.get?_eq_bind]
      simp only [source, List.getElem?_eq_getElem row_lt, Option.bind_some]
      rw [List.getElem?_reverse inside, width]
  | verticalFlip =>
      rw [Grid.get?_eq_bind, Grid.get?_eq_bind, rows_verticalFlip]
      rw [List.getElem?_reverse row_lt]
      rfl
  | rotate amount =>
      rw [apply, Grid.get?_mapRows, Grid.get?_eq_bind]
      simp only [source, List.getElem?_eq_getElem row_lt, Option.bind_some]
      rw [Grid.rotateRight_eq_rotate, List.getElem?_rotate inside, width,
        Nat.mod_eq_of_lt (rotationOffset_lt amount g.width_pos),
        add_sub_rotationOffset_mod amount g.width_pos]

end Operation

end LayoutCipher
