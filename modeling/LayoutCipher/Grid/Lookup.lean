import LayoutCipher.Grid.Basic

/-!
# Looking up cells

Cells are found by coordinate (`Grid.get?`, `Grid.row`) and coordinates by cell
(`Grid.positionOf?`, `Grid.index`).
-/

namespace LayoutCipher.Grid

/-- The place of a cell: row and column, both counted from 0. -/
structure Coordinate where
  row : Nat
  column : Nat
  deriving DecidableEq, Repr

/-- The request for a row that a grid does not have. -/
inductive AccessFault where
  | rowOutOfBounds
  deriving DecidableEq, Repr

def AccessFault.message : AccessFault → String
  | .rowOutOfBounds => "row index out of bounds"

variable {α : Type}

/-- The cell at a coordinate, if the grid reaches that far. -/
def get? (g : Grid α) (place : Coordinate) : Option α :=
  match g.rows[place.row]? with
  | some cells => cells[place.column]?
  | none => none

def row (g : Grid α) (r : Nat) : Except AccessFault (List α) :=
  match g.rows[r]? with
  | some cells => .ok cells
  | none => .error .rowOutOfBounds

/-- Every cell with its coordinate, in reading order. -/
def index (g : Grid α) : List (α × Coordinate) :=
  (g.rows.zipIdx.map fun (cells, row) =>
    cells.zipIdx.map fun (cell, column) => (cell, ⟨row, column⟩)).flatten

variable [DecidableEq α]

def contains (g : Grid α) (cell : α) : Bool :=
  g.cells.contains cell

/-- The coordinate of `cell`: its place in reading order, split by the width. -/
def positionOf? (g : Grid α) (cell : α) : Option Coordinate :=
  (g.cells.idxOf? cell).map fun i => ⟨i / g.width, i % g.width⟩

end LayoutCipher.Grid
