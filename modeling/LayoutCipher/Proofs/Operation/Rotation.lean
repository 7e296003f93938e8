import LayoutCipher.Proofs.Operation.NormalForm

/-!
# Rotations

Rotations add up over the integers, whatever the size of their amounts, and only the remainder to
the width counts.  The offset by which a rotation moves cells is that remainder.  It lies inside
every row, and words of 128 bits are wide enough to compute it.
-/

namespace LayoutCipher.Operation

open Grid (Coordinate)

variable {α : Type} {g : Grid α}

/-! ## Sums -/

@[simp]
theorem count_horizontalFlip_map_rotate (amounts : List Int64) :
    (amounts.map rotate).count horizontalFlip = 0 := by
  simp [List.count_eq_zero]

@[simp]
theorem count_verticalFlip_map_rotate (amounts : List Int64) :
    (amounts.map rotate).count verticalFlip = 0 := by
  simp [List.count_eq_zero]

theorem netRotation_map_rotate (amounts : List Int64) :
    netRotation (amounts.map rotate) = (amounts.map Int64.toInt).sum := by
  induction amounts with
  | nil => rfl
  | cons amount rest ih => simp [netRotation, ih]

/-- Rotations alone do the same to a grid exactly if their sums agree up to whole widths. -/
theorem applyAll_map_rotate_eq_iff (g : Grid α) (first second : List Int64) :
    applyAll (first.map rotate) g = applyAll (second.map rotate) g ↔
      (first.map Int64.toInt).sum ≡ (second.map Int64.toInt).sum [ZMOD g.width] := by
  rw [← netRotation_map_rotate, ← netRotation_map_rotate]
  constructor
  · intro same
    -- the first cell of the grid shows by how many columns both sides have moved it
    have reached : g.Reaches ⟨0, 0⟩ := ⟨g.height_pos, g.width_pos⟩
    have origins := origin_eq_of_applyAll_eq same reached
    have columns := ColumnMap.modEq_of_column_eq g.width_pos (congrArg Coordinate.column origins)
    simpa [ColumnMap.ofOperations_eq] using columns.neg
  · intro congruent
    exact Agree.applyAll_eq ⟨by simp, by simp, congruent⟩

theorem apply_apply_rotate_eq_iff {a b k : Int64} :
    (rotate b).apply ((rotate a).apply g) = (rotate k).apply g ↔
      k.toInt ≡ a.toInt + b.toInt [ZMOD g.width] := by
  have sums := applyAll_map_rotate_eq_iff g [k] [a, b]
  simp only [List.map_cons, List.map_nil, List.sum_cons, List.sum_nil, add_zero] at sums
  exact eq_comm.trans sums

/-! ## Cells -/

theorem get?_apply_rotate {row column : Nat} (row_lt : row < g.height)
    (column_lt : column < g.width) (a : Int64) :
    ((rotate a).apply g).get? ⟨row, ((column + a.toInt) % g.width).toNat⟩ =
      g.get? ⟨row, column⟩ := by
  have width_pos : (0 : Int) < g.width := Int.natCast_pos.mpr g.width_pos
  have nonneg := Int.emod_nonneg (column + a.toInt) width_pos.ne'
  have lt := Int.emod_lt_of_pos (column + a.toInt) width_pos
  have inside : ((column + a.toInt) % g.width).toNat < g.width := by omega
  -- the source of the new column is the old one, which is reduced already
  have back : ((column + a.toInt) % g.width - a.toInt) % g.width = column := by
    rw [Int.emod_sub_emod, add_sub_cancel_right,
      Int.emod_eq_of_lt (Int.natCast_nonneg _) (Int.ofNat_lt.mpr column_lt)]
  have reached : g.Reaches ⟨row, ((column + a.toInt) % g.width).toNat⟩ := ⟨row_lt, inside⟩
  rw [get?_apply _ g reached, source, Int.toNat_of_nonneg nonneg, back, Int.toNat_natCast]

/-! ## Offsets -/

theorem natCast_rotationOffset (a : Int64) {width : Nat} (width_pos : 0 < width) :
    (rotationOffset a width : Int) = a.toInt % width :=
  Int.toNat_of_nonneg (Int.emod_nonneg _ (Int.natCast_ne_zero.mpr width_pos.ne'))

/-- The offset in words: amount and width are widened to 128 bits, and the remainder is cut back to
the 64 bits of the width. -/
def rotationOffsetWord (a : Int64) (width : UInt64) : UInt64 :=
  ⟨((a.toBitVec.signExtend 128).smod (width.toBitVec.setWidth 128)).setWidth 64⟩

theorem toInt_setWidth_of_lt (word : BitVec 64) : (word.setWidth 128).toInt = word.toNat := by
  have bound := word.isLt
  rw [BitVec.toInt_setWidth, Int.bmod_eq_of_le (by omega) (by omega)]

theorem toNat_rotationOffsetWord (a : Int64) {width : UInt64} (width_pos : 0 < width.toNat) :
    (rotationOffsetWord a width).toNat = rotationOffset a width.toNat := by
  have offset := natCast_rotationOffset a width_pos
  have lt := rotationOffset_lt a width_pos
  have bound := width.toNat_lt
  have remainder : ((a.toBitVec.signExtend 128).smod (width.toBitVec.setWidth 128)).toInt =
      rotationOffset a width.toNat := by
    rw [BitVec.toInt_smod, BitVec.toInt_signExtend_of_le (by decide), toInt_setWidth_of_lt,
      Int.fmod_eq_emod_of_nonneg _ (Int.natCast_nonneg _), offset]
    rfl
  -- the remainder is below the width, so its word of 128 bits holds it without a sign
  have unsigned : ((a.toBitVec.signExtend 128).smod (width.toBitVec.setWidth 128)).toNat =
      rotationOffset a width.toNat := by
    rw [BitVec.toInt_eq_toNat_cond] at remainder
    split at remainder <;> omega
  rw [rotationOffsetWord]
  change (BitVec.setWidth 64 _).toNat = _
  rw [BitVec.toNat_setWidth, unsigned, Nat.mod_eq_of_lt (by omega)]

/-- Two rotations together are a third exactly if its amount is the sum of theirs up to whole
widths, taken over the integers.  A rotation moves every cell along its row by its amount, up to
whole widths.  The offset that it computes is the remainder itself, in words as well, and inside
every row. -/
theorem rotate_rotate_eq_rotate_iff (g : Grid α) (a b k : Int64) :
    ((rotate b).apply ((rotate a).apply g) = (rotate k).apply g ↔
      k.toInt ≡ a.toInt + b.toInt [ZMOD g.width]) ∧
    (∀ row < g.height, ∀ column < g.width, ∃ cell, g.get? ⟨row, column⟩ = some cell ∧
      ((rotate a).apply g).get? ⟨row, ((column + a.toInt) % g.width).toNat⟩ = some cell) ∧
    (∀ cells ∈ g.rows, rotationOffset a g.width < cells.length) ∧
    (∀ width : Nat, 1 ≤ width → rotationOffset a width < width ∧
      (rotationOffset a width : Int) = a.toInt % width) ∧
    ∀ width : UInt64, 1 ≤ width.toNat →
      (rotationOffsetWord a width).toNat = rotationOffset a width.toNat := by
  refine ⟨apply_apply_rotate_eq_iff, ?_, ?_, ?_, ?_⟩
  · intro row row_lt column column_lt
    have reached : g.Reaches ⟨row, column⟩ := ⟨row_lt, column_lt⟩
    obtain ⟨cell, typed⟩ := Grid.exists_get?_eq_some reached
    exact ⟨cell, typed, (get?_apply_rotate row_lt column_lt a).trans typed⟩
  · intro cells mem
    rw [g.length_of_mem cells mem]
    exact rotationOffset_lt a g.width_pos
  · intro width width_pos
    exact ⟨rotationOffset_lt a width_pos, natCast_rotationOffset a width_pos⟩
  · intro width width_pos
    exact toNat_rotationOffsetWord a width_pos

/-- Twice the greatest amount comes to four columns of ten, and not to what the sum leaves in a
word.  It takes the key `P` from the end of its row to the seventh place. -/
theorem rotate_rotate_eq_rotate_iff_greatest :
    (rotate Int64.maxValue).apply ((rotate Int64.maxValue).apply Layout.qwerty) =
        (rotate 4).apply Layout.qwerty ∧
      (rotate Int64.maxValue).apply ((rotate Int64.maxValue).apply Layout.qwerty) ≠
        (rotate (Int64.maxValue + Int64.maxValue)).apply Layout.qwerty ∧
      ((rotate Int64.maxValue).apply Layout.qwerty).get? ⟨1, 6⟩ = some 'P' ∧
      rotationOffset Int64.maxValue 10 < "QWERTYUIOP".toList.length ∧
      (rotationOffset Int64.minValue 1 < 1 ∧
        (rotationOffset Int64.minValue 1 : Int) = Int64.minValue.toInt % 1) ∧
      (rotationOffsetWord Int64.minValue 10).toNat = rotationOffset Int64.minValue 10 := by
  obtain ⟨sums, moves, inside, _⟩ :=
    rotate_rotate_eq_rotate_iff Layout.qwerty Int64.maxValue Int64.maxValue 4
  obtain ⟨_, _, _, bounds, words⟩ :=
    rotate_rotate_eq_rotate_iff Layout.qwerty Int64.minValue Int64.maxValue 4
  obtain ⟨wrapped, _⟩ := rotate_rotate_eq_rotate_iff Layout.qwerty Int64.maxValue Int64.maxValue
    (Int64.maxValue + Int64.maxValue)
  obtain ⟨cell, typed, moved⟩ := moves 1 (by decide) 9 (by decide)
  obtain rfl : 'P' = cell := Option.some.inj typed
  exact ⟨sums.mpr (by decide), fun same => absurd (wrapped.mp same) (by decide), moved,
    inside _ (by decide), bounds 1 (by decide), words 10 (by decide)⟩

end LayoutCipher.Operation
