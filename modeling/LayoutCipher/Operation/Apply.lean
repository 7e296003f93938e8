import LayoutCipher.Grid.Basic
import LayoutCipher.Operation.Basic

/-!
# Operations on grids

Flips and rotations only move cells: each is built from `Grid.mapRows` or `Grid.reverseRows`,
which keep the shape of a grid and permute its cells.
-/

namespace LayoutCipher

namespace Grid

variable {α : Type}

theorem flatten_map_perm {f : List α → List α} (perm : ∀ cells, (f cells).Perm cells)
    (rows : List (List α)) : (rows.map f).flatten.Perm rows.flatten := by
  induction rows with
  | nil => exact List.Perm.nil
  | cons cells rest ih => simpa using (perm cells).append ih

/-- Rearranges the cells of every row in the same way. -/
def mapRows (f : List α → List α) (perm : ∀ cells, (f cells).Perm cells) (g : Grid α) :
    Grid α where
  rows := g.rows.map f
  width := g.width
  rows_ne_nil := by simpa using g.rows_ne_nil
  width_pos := g.width_pos
  length_of_mem := by
    intro row mem
    obtain ⟨cells, cells_mem, rfl⟩ := List.mem_map.mp mem
    rw [(perm cells).length_eq, g.length_of_mem cells cells_mem]
  nodup := (flatten_map_perm perm g.rows).nodup_iff.mpr g.nodup

/-- Turns the order of the rows around. -/
def reverseRows (g : Grid α) : Grid α where
  rows := g.rows.reverse
  width := g.width
  rows_ne_nil := by simpa using g.rows_ne_nil
  width_pos := g.width_pos
  length_of_mem := fun row mem => g.length_of_mem row (List.mem_reverse.mp mem)
  nodup := (List.reverse_perm g.rows).flatten.nodup_iff.mpr g.nodup

theorem rotateRight_perm (cells : List α) (offset : Nat) :
    (cells.rotateRight offset).Perm cells := by
  simp only [List.rotateRight]
  split
  · exact List.Perm.refl cells
  · refine List.perm_append_comm.trans ?_
    rw [List.take_append_drop]

end Grid

namespace Operation

variable {α : Type}

/-- The number of columns, below `width`, by which a rotation by `amount` moves cells to the
right. -/
def rotationOffset (amount : Int64) (width : Nat) : Nat :=
  (amount.toInt % (width : Int)).toNat

def apply (operation : Operation) (g : Grid α) : Grid α :=
  match operation with
  | .horizontalFlip => g.mapRows List.reverse List.reverse_perm
  | .verticalFlip => g.reverseRows
  | .rotate amount =>
      let offset := rotationOffset amount g.width
      g.mapRows (·.rotateRight offset) (Grid.rotateRight_perm · offset)

/-- Applies operations to a grid, first to last. -/
def applyAll (operations : List Operation) (g : Grid α) : Grid α :=
  operations.foldl (fun current operation => operation.apply current) g

@[simp]
theorem rows_horizontalFlip (g : Grid α) :
    (horizontalFlip.apply g).rows = g.rows.map List.reverse :=
  rfl

@[simp]
theorem rows_verticalFlip (g : Grid α) : (verticalFlip.apply g).rows = g.rows.reverse :=
  rfl

@[simp]
theorem rows_rotate (amount : Int64) (g : Grid α) :
    ((rotate amount).apply g).rows =
      g.rows.map (·.rotateRight (rotationOffset amount g.width)) :=
  rfl

/-- No operation changes the number of columns. -/
@[simp]
theorem width_apply (operation : Operation) (g : Grid α) :
    (operation.apply g).width = g.width := by
  cases operation <;> rfl

theorem rotationOffset_lt (amount : Int64) {width : Nat} (width_pos : 0 < width) :
    rotationOffset amount width < width := by
  have bound := Int.emod_lt_of_pos amount.toInt (Int.natCast_pos.mpr width_pos)
  unfold rotationOffset
  omega

end Operation

end LayoutCipher
