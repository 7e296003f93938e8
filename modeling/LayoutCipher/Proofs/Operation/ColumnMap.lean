import LayoutCipher.Proofs.Operation.Rearrangement
import LayoutCipher.Retype
import Mathlib.Algebra.Ring.Int.Parity
import Mathlib.Data.Int.ModEq

/-!
# The closed form of many operations

However many operations are applied, every cell comes from one row and one column of the original
grid.  The rows are turned around by an odd number of vertical flips.  The columns go through an
affine map that is collected over the unbounded integers and reduced once, at the end.
-/

namespace LayoutCipher

open Grid (Coordinate)

variable {α : Type}

/-- An affine map of columns, over all integers. -/
structure ColumnMap where
  sign : Int
  shift : Int
  deriving DecidableEq, Repr

namespace ColumnMap

/-- The map of columns once another operation has been applied. -/
def after (map : ColumnMap) : Operation → ColumnMap
  | .horizontalFlip => ⟨-map.sign, map.shift - map.sign⟩
  | .verticalFlip => map
  | .rotate amount => ⟨map.sign, map.shift - map.sign * amount.toInt⟩

/-- The map of columns of a list of operations, first to last. -/
def ofOperations (operations : List Operation) : ColumnMap :=
  operations.foldl after ⟨1, 0⟩

theorem ofOperations_append_singleton (operations : List Operation) (operation : Operation) :
    ofOperations (operations ++ [operation]) = (ofOperations operations).after operation :=
  List.foldl_append ..

/-- The value of a map at a column, reduced to a width. -/
def column (map : ColumnMap) (width j : Nat) : Nat :=
  ((map.sign * j + map.shift) % width).toNat

theorem column_lt (map : ColumnMap) {width : Nat} (width_pos : 0 < width) (j : Nat) :
    map.column width j < width := by
  have bound := Int.emod_lt_of_pos (map.sign * j + map.shift) (Int.natCast_pos.mpr width_pos)
  unfold column
  omega

theorem column_eq_of_modEq (map : ColumnMap) {width j : Nat} {n : Int}
    (congruent : (j : Int) ≡ n [ZMOD width]) :
    map.column width j = ((map.sign * n + map.shift) % width).toNat := by
  have moved : map.sign * j + map.shift ≡ map.sign * n + map.shift [ZMOD width] :=
    (congruent.mul_left map.sign).add_right map.shift
  rw [column, moved]

theorem column_after (map : ColumnMap) (operation : Operation) {height width : Nat}
    {place : Coordinate} (column_lt : place.column < width) :
    (map.after operation).column width place.column =
      map.column width (operation.source height width place).column := by
  cases operation with
  | horizontalFlip =>
      -- `width - 1 - column` is `-1 - column` up to one whole width
      have congruent : ((width - 1 - place.column : Nat) : Int) ≡
          -1 - place.column [ZMOD width] := by
        have mirrored : ((width - 1 - place.column : Nat) : Int) =
            -1 - place.column + width := by omega
        rw [mirrored]
        exact Int.add_emod_right ..
      rw [Operation.source, map.column_eq_of_modEq congruent, column]
      congr 2
      simp only [after]
      ring
  | verticalFlip => rfl
  | rotate amount =>
      -- the source is reduced already, and the map forgets that
      have congruent : (((place.column - amount.toInt) % width).toNat : Int) ≡
          place.column - amount.toInt [ZMOD width] := by
        rw [Int.toNat_of_nonneg (Int.emod_nonneg _ (by omega))]
        exact Int.mod_modEq ..
      rw [Operation.source, map.column_eq_of_modEq congruent, column]
      congr 2
      simp only [after]
      ring

end ColumnMap

namespace Operation

/-- The coordinate of the original grid from which a list of operations takes the cell that it
puts at `place`. -/
def origin (operations : List Operation) (height width : Nat) (place : Coordinate) :
    Coordinate where
  row := if Odd (operations.count .verticalFlip) then height - 1 - place.row else place.row
  column := (ColumnMap.ofOperations operations).column width place.column

@[simp]
theorem applyAll_append (first second : List Operation) (g : Grid α) :
    applyAll (first ++ second) g = applyAll second (applyAll first g) :=
  List.foldl_append ..

theorem applyAll_singleton (operation : Operation) (g : Grid α) :
    applyAll [operation] g = operation.apply g :=
  rfl

@[simp]
theorem height_applyAll (operations : List Operation) (g : Grid α) :
    (applyAll operations g).height = g.height :=
  (rearranges_applyAll operations g).height_eq

@[simp]
theorem width_applyAll (operations : List Operation) (g : Grid α) :
    (applyAll operations g).width = g.width :=
  (rearranges_applyAll operations g).width_eq

theorem origin_reached (operations : List Operation) (g : Grid α) {place : Coordinate}
    (reached : g.Reaches place) : g.Reaches (origin operations g.height g.width place) := by
  obtain ⟨row_lt, _⟩ := reached
  refine ⟨?_, ColumnMap.column_lt _ g.width_pos _⟩
  simp only [origin]
  split <;> omega

theorem origin_append_singleton (operations : List Operation) (operation : Operation)
    {height width : Nat} {place : Coordinate} (row_lt : place.row < height)
    (column_lt : place.column < width) :
    origin (operations ++ [operation]) height width place =
      origin operations height width (operation.source height width place) := by
  have columns : (ColumnMap.ofOperations (operations ++ [operation])).column width place.column =
      (ColumnMap.ofOperations operations).column width
        (operation.source height width place).column := by
    rw [ColumnMap.ofOperations_append_singleton]
    exact ColumnMap.column_after _ operation column_lt
  cases operation with
  | horizontalFlip => simp [origin, columns, source]
  | verticalFlip =>
      have mirroredTwice : height - 1 - (height - 1 - place.row) = place.row := by omega
      by_cases odd : Odd (operations.count verticalFlip) <;>
        simp [origin, columns, source, Nat.odd_add_one, odd, mirroredTwice]
  | rotate amount => simp [origin, columns, source]

/-- A list of operations puts at every coordinate of a grid the cell of its origin. -/
theorem get?_applyAll (operations : List Operation) (g : Grid α) {place : Coordinate}
    (reached : g.Reaches place) :
    (applyAll operations g).get? place =
      g.get? (origin operations g.height g.width place) := by
  induction operations using List.reverseRecOn generalizing place with
  | nil =>
      obtain ⟨_, column_lt⟩ := reached
      have column : ColumnMap.column ⟨1, 0⟩ g.width place.column = place.column := by
        rw [ColumnMap.column, one_mul, add_zero, ← Int.natCast_mod, Int.toNat_natCast,
          Nat.mod_eq_of_lt column_lt]
      simp [origin, ColumnMap.ofOperations, applyAll, column]
  | append_singleton operations operation ih =>
      -- going back, the last operation is the first step; the others see the grid before it
      have shape : (applyAll operations g).Reaches place := by
        simpa [Grid.Reaches] using reached
      rw [applyAll_append, applyAll_singleton, get?_apply operation _ shape, height_applyAll,
        width_applyAll, ih (source_reached operation g reached),
        origin_append_singleton operations operation reached.1 reached.2]

end Operation

/-! ## Ciphers -/

namespace Grid

/-- A cipher that can be read transforms every grid, keeps its shape, and puts at row `row` and
column `column` the cell of the row given by the parity of the vertical flips and of the column
given by the affine map of the operations. -/
theorem exists_transform_get? (g : Grid α) {cipher : String} {operations : List Operation}
    (parsed : (Cipher.parse cipher).outcome = .ok operations) :
    ∃ transformed, (g.transform cipher).outcome = .ok transformed ∧
      transformed.height = g.height ∧ transformed.width = g.width ∧
      ∀ row < g.height, ∀ column < g.width, ∃ cell,
        transformed.get? ⟨row, column⟩ = some cell ∧
        g.get? ⟨if Odd (operations.count .verticalFlip) then g.height - 1 - row else row,
          (ColumnMap.ofOperations operations).column g.width column⟩ = some cell := by
  refine ⟨Operation.applyAll operations g, g.outcome_transform_of_ok parsed, by simp, by simp, ?_⟩
  intro row row_lt column column_lt
  have reached : g.Reaches ⟨row, column⟩ := ⟨row_lt, column_lt⟩
  obtain ⟨cell, taken⟩ := exists_get?_eq_some (Operation.origin_reached operations g reached)
  exact ⟨cell, (Operation.get?_applyAll operations g reached).trans taken, taken⟩

/-- The cipher `HVS12` puts the second key of the last row into the first place of all. -/
theorem exists_transform_get?_qwerty :
    (Cipher.parse "HVS12").outcome = .ok [.horizontalFlip, .verticalFlip, .rotate 12] ∧
      ∃ transformed, (Layout.qwerty.transform "HVS12").outcome = .ok transformed ∧
        transformed.get? ⟨0, 0⟩ = some 'X' := by
  have parsed : (Cipher.parse "HVS12").outcome =
      .ok [.horizontalFlip, .verticalFlip, .rotate 12] := by decide +kernel
  obtain ⟨transformed, succeeded, _, _, cells⟩ := Layout.qwerty.exists_transform_get? parsed
  obtain ⟨cell, put, taken⟩ := cells 0 (by decide) 0 (by decide)
  have key : some 'X' = some cell := by rw [← taken]; decide
  exact ⟨parsed, transformed, succeeded, put.trans key.symm⟩

end Grid

end LayoutCipher
