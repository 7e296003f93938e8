import LayoutCipher.Proofs.Access.Guarded
import LayoutCipher.Proofs.Grid.Reachable

/-!
# Grids in one array

The cells of a grid can be kept in one array, row behind row, with the number of columns beside
it.  Then rows are cut out by this number, coordinates are quotients and remainders by it, and an
operation puts an array in the place of another.  A number of columns that is zero, or an array of
another length, would make each of these go wrong; grids that were built never come to that.
-/

namespace LayoutCipher

open Guarded

/-- The cells of a grid in one array.  Nothing is asked of the numbers beside it. -/
structure Stored (α : Type) where
  rows : Nat
  columns : Nat
  cells : List α
  deriving DecidableEq

variable {α : Type}

def Grid.stored (g : Grid α) : Stored α :=
  ⟨g.height, g.width, g.cells⟩

/-- A rearranged grid is stored with other cells and nothing else changed. -/
theorem Grid.Rearranges.stored_eq {g h : Grid α} (rearranged : g.Rearranges h) :
    h.stored = { g.stored with cells := h.cells } := by
  rw [stored, rearranged.height_eq, rearranged.width_eq]
  rfl

namespace Stored

/-- What building a grid stores of rows that have no defect. -/
def ofRows (rows : List (List α)) : Stored α :=
  ⟨rows.length, (rows.headD []).length, rows.flatten⟩

def iterRows (s : Stored α) : Guarded (List (List α)) :=
  chunks s.columns s.cells

/-- Changes the cells row by row; cells behind the last whole row stay. -/
def mapRows (f : List α → Guarded (List α)) (s : Stored α) : Guarded (Stored α) := do
  let rows ← s.iterRows
  let changed ← rows.mapM f
  return { s with cells := changed.flatten ++ s.cells.drop (rows.length * s.columns) }

/-- Puts other cells, as many as there are, in the place of all cells. -/
def setCells (cells : List α) (s : Stored α) : Guarded (Stored α) :=
  if cells.length = s.cells.length then .ok { s with cells }
  else .error (.replacement cells.length s.cells.length)

/-- Applies an operation.  A rotation by whole turns touches no row. -/
def apply (operation : Operation) (s : Stored α) : Guarded (Stored α) :=
  match operation with
  | .horizontalFlip => s.mapRows fun row => .ok row.reverse
  | .verticalFlip => do
      let rows ← s.iterRows
      s.setCells rows.reverse.flatten
  | .rotate amount => do
      let offset ← remainder amount.toInt s.columns
      if offset = 0 then return s
      else s.mapRows (rotateRight offset)

def applyAll (operations : List Operation) (s : Stored α) : Guarded (Stored α) :=
  operations.foldlM (fun s operation => s.apply operation) s

/-- Applies the operations of a cipher; one that cannot be read is a failure and no trap. -/
def transform (cipher : String) (s : Stored α) : Guarded (Except Fault (Stored α)) :=
  onSuccess (Cipher.parse cipher).outcome fun operations => do
    let transformed ← s.applyAll operations
    return .ok transformed

def index (s : Stored α) : Guarded (List (α × Grid.Coordinate)) :=
  s.cells.zipIdx.mapM fun (cell, i) => do
    let (row, column) ← divMod i s.columns
    return (cell, ⟨row, column⟩)

/-! ## Rows -/

theorem iterRows_stored (g : Grid α) : g.stored.iterRows = .ok g.rows := by
  have chunked : g.stored.iterRows = .ok ((List.range (g.cells.length / g.width)).map fun r =>
      (g.cells.drop (r * g.width)).take g.width) := chunks_of_pos g.width_pos g.cells
  rw [chunked, Grid.length_cells, Nat.mul_div_cancel _ g.width_pos]
  congr 1
  apply List.ext_getElem
  · simp [Grid.height]
  · intro r _ inside
    simpa [Grid.cells] using Grid.take_drop_flatten g.length_of_mem inside

-- Numbers that no grid was built with do not cut anything out.
example : (⟨0, 0, []⟩ : Stored Char).iterRows = .error .zeroChunk :=
  rfl

theorem mapRows_stored {f : List α → Guarded (List α)} {h : List α → List α} (g : Grid α)
    (safe : ∀ row ∈ g.rows, f row = .ok (h row)) :
    g.stored.mapRows f = .ok { g.stored with cells := (g.rows.map h).flatten } := by
  rw [mapRows, iterRows_stored, ok_bind, mapM_eq_ok safe, ok_bind]
  -- the rows take up all cells, so none is left behind them
  have whole : g.stored.cells.drop (g.rows.length * g.stored.columns) = [] :=
    List.drop_eq_nil_of_le (Nat.le_of_eq g.length_cells)
  rw [whole, List.append_nil]
  rfl

theorem apply_stored (operation : Operation) (g : Grid α) :
    g.stored.apply operation = .ok (operation.apply g).stored := by
  rw [(Operation.rearranges_apply operation g).stored_eq]
  cases operation with
  | horizontalFlip => exact mapRows_stored g fun _ _ => rfl
  | verticalFlip =>
      have replaced : g.rows.reverse.flatten.length = g.stored.cells.length :=
        (List.reverse_perm g.rows).flatten.length_eq
      rw [apply, iterRows_stored, ok_bind, setCells, if_pos replaced]
      rfl
  | rotate amount =>
      have reduced : remainder amount.toInt g.stored.columns =
          .ok (Operation.rotationOffset amount g.width) := remainder_of_pos _ g.width_pos
      rw [apply, reduced, ok_bind]
      split
      · next still =>
          -- nothing is touched, and the rows would not be changed by it either
          have same : ((Operation.rotate amount).apply g).cells = g.cells := by
            simp [Grid.cells, still]
          rw [same]
          rfl
      · refine mapRows_stored g fun row mem => rotateRight_of_le ?_
        rw [g.length_of_mem row mem]
        exact Nat.le_of_lt (Operation.rotationOffset_lt amount g.width_pos)

theorem applyAll_stored (operations : List Operation) (g : Grid α) :
    g.stored.applyAll operations = .ok (Operation.applyAll operations g).stored := by
  induction operations generalizing g with
  | nil => rfl
  | cons operation rest ih =>
      rw [applyAll, List.foldlM_cons, apply_stored, ok_bind]
      exact ih (operation.apply g)

/-- A cipher that cannot be read fails before an operation is applied. -/
theorem transform_stored (g : Grid α) (cipher : String) :
    g.stored.transform cipher = .ok ((g.transform cipher).outcome.map Grid.stored) := by
  rw [Grid.outcome_transform, transform]
  cases (Cipher.parse cipher).outcome with
  | error fault => rfl
  | ok operations =>
      rw [onSuccess, applyAll_stored]
      rfl

/-- Cells that are counted on from the rows above stand at the quotient and the remainder. -/
theorem map_zipIdx_flatten {rows : List (List α)} {width : Nat}
    (length_eq : ∀ cells ∈ rows, cells.length = width) (r : Nat) :
    (rows.flatten.zipIdx (r * width)).map
        (fun entry => (entry.1, (⟨entry.2 / width, entry.2 % width⟩ : Grid.Coordinate))) =
      ((rows.zipIdx r).map fun (cells, row) =>
        cells.zipIdx.map fun (cell, column) => (cell, ⟨row, column⟩)).flatten := by
  induction rows generalizing r with
  | nil => rfl
  | cons cells rest ih =>
      have first : cells.length = width := length_eq cells List.mem_cons_self
      have below := ih (fun other mem => length_eq other (List.mem_cons_of_mem cells mem)) (r + 1)
      rw [List.flatten_cons, List.zipIdx_append, List.map_append, List.zipIdx_cons, List.map_cons,
        List.flatten_cons, ← below, first, Nat.succ_mul, Nat.add_comm (r * width)]
      congr 1
      apply List.ext_getElem
      · simp
      · -- a cell of the first row is `r * width` cells and `j` more behind the beginning
        intro j _ inside
        have j_lt : j < width := by simpa [first] using inside
        obtain ⟨row, column⟩ := Grid.offset_div_mod j_lt r
        simp [row, column]

theorem index_stored (g : Grid α) : g.stored.index = .ok g.index := by
  have listed := map_zipIdx_flatten g.length_of_mem 0
  rw [Nat.zero_mul] at listed
  refine (mapM_eq_ok fun entry _ => ?_).trans (congrArg Except.ok listed)
  obtain ⟨cell, i⟩ := entry
  have split : divMod i g.stored.columns = .ok (i / g.width, i % g.width) :=
    divMod_of_pos i g.width_pos
  simp [split]

/-! ## Runs -/

/-- The second array of cells comes from the first by operations that met no trap. -/
inductive Reaches (start : Stored α) : Stored α → Prop where
  | start : Reaches start start
  | apply {s next : Stored α} (before : Reaches start s) {operation : Operation}
      (applied : s.apply operation = .ok next) : Reaches start next

theorem stored_eq_ofRows [DecidableEq α] {rows : List (List α)} {built : Grid α}
    (accepted : Grid.ofRows rows = .ok built) : built.stored = ofRows rows := by
  obtain rfl := Grid.rows_eq_of_ofRows_eq_ok accepted
  obtain ⟨first, rest, front⟩ := List.exists_cons_of_ne_nil built.rows_ne_nil
  have width_eq : first.length = built.width :=
    built.length_of_mem first (front ▸ List.mem_cons_self)
  rw [Grid.stored, ofRows, front, List.headD_cons, width_eq, Grid.cells, Grid.height, front]

theorem Reaches.exists_reachable {built : Grid α} {s : Stored α}
    (reaches : built.stored.Reaches s) : ∃ reached, built.Reachable reached ∧ s = reached.stored := by
  induction reaches with
  | start => exact ⟨built, .built, rfl⟩
  | @apply s next _ operation applied ih =>
      obtain ⟨reached, reachable, rfl⟩ := ih
      rw [apply_stored] at applied
      cases applied
      exact ⟨_, reachable.apply operation, rfl⟩

theorem Reaches.applyAll {start : Stored α} {g : Grid α} (before : start.Reaches g.stored)
    (operations : List Operation) : start.Reaches (Operation.applyAll operations g).stored := by
  induction operations generalizing g with
  | nil => exact before
  | cons operation rest ih => exact ih (before.apply (apply_stored operation g))

theorem reaches_of_reachable {built reached : Grid α} (reachable : built.Reachable reached) :
    built.stored.Reaches reached.stored := by
  induction reachable with
  | built => exact .start
  | apply _ operation ih => exact ih.apply (apply_stored operation _)
  | applyAll _ operations ih => exact ih.applyAll operations
  | transform _ succeeded ih =>
      obtain ⟨operations, _, rfl⟩ := Grid.outcome_transform_eq_ok_iff.mp succeeded
      exact ih.applyAll operations

end Stored

end LayoutCipher
