import LayoutCipher.Proofs.Operation.ColumnMap

/-!
# The normal form of operations

Vertical flips commute with everything, and a horizontal flip turns the direction of the rotations
before it around.  So all that a list of operations does to a grid is told by two parities and one
net rotation, and on a grid that is not too small nothing less will do.
-/

namespace LayoutCipher

open Grid (Coordinate)

variable {α : Type}

namespace Operation

/-! ## Net rotation -/

/-- The sum of the amounts of all rotations, each of them negated if an odd number of horizontal
flips comes after it. -/
def netRotation : List Operation → Int
  | [] => 0
  | .horizontalFlip :: rest => netRotation rest
  | .verticalFlip :: rest => netRotation rest
  | .rotate amount :: rest =>
      (if Odd (rest.count .horizontalFlip) then -amount.toInt else amount.toInt) +
        netRotation rest

theorem netRotation_append (first second : List Operation) :
    netRotation (first ++ second) =
      (if Odd (second.count .horizontalFlip) then -netRotation first else netRotation first) +
        netRotation second := by
  induction first with
  | nil => simp [netRotation]
  | cons operation rest ih =>
      cases operation with
      | horizontalFlip => exact ih
      | verticalFlip => exact ih
      | rotate amount =>
          -- the flips after the rotation are those of the rest and those of the second list
          rw [List.cons_append, netRotation, netRotation, ih, List.count_append]
          by_cases before : Odd (rest.count .horizontalFlip) <;>
            by_cases behind : Odd (second.count .horizontalFlip) <;>
            simp [Nat.odd_add, ← Nat.not_odd_iff_even, before, behind] <;> ring

end Operation

namespace ColumnMap

theorem ofOperations_eq (operations : List Operation) :
    ofOperations operations =
      if Odd (operations.count .horizontalFlip) then
        ⟨-1, Operation.netRotation operations - 1⟩
      else ⟨1, -Operation.netRotation operations⟩ := by
  induction operations using List.reverseRecOn with
  | nil => rfl
  | append_singleton operations operation ih =>
      rw [ofOperations_append_singleton, ih, Operation.netRotation_append, List.count_append]
      -- a flip behind the others negates the sign and the net rotation, so their product stays
      cases operation with
      | horizontalFlip =>
          by_cases odd : Odd (operations.count .horizontalFlip) <;>
            simp [odd, after, Operation.netRotation, Nat.odd_add_one]
      | verticalFlip => simp [after, Operation.netRotation]
      | rotate amount =>
          by_cases odd : Odd (operations.count .horizontalFlip) <;>
            simp [odd, after, Operation.netRotation] <;> ring

theorem column_eq_of_modEq_shift {sign shift shift' : Int} {width : Nat}
    (congruent : shift ≡ shift' [ZMOD width]) (j : Nat) :
    column ⟨sign, shift⟩ width j = column ⟨sign, shift'⟩ width j := by
  have moved : sign * j + shift ≡ sign * j + shift' [ZMOD width] := congruent.add_left _
  rw [column, column, moved]

theorem modEq_of_column_eq {first second : ColumnMap} {width j : Nat} (width_pos : 0 < width)
    (same : first.column width j = second.column width j) :
    first.sign * j + first.shift ≡ second.sign * j + second.shift [ZMOD width] := by
  have nonneg := fun n : Int => Int.emod_nonneg n (Int.natCast_ne_zero.mpr width_pos.ne')
  have reduced := congrArg ((↑) : Nat → Int) same
  rwa [column, column, Int.toNat_of_nonneg (nonneg _), Int.toNat_of_nonneg (nonneg _)] at reduced

theorem modEq_of_forall_column_eq {first second : ColumnMap} {width : Nat} (two_le : 2 ≤ width)
    (same : ∀ j < width, first.column width j = second.column width j) :
    first.sign ≡ second.sign [ZMOD width] ∧ first.shift ≡ second.shift [ZMOD width] := by
  -- the first column shows the shift alone, the second one shift and sign together
  have shifts := modEq_of_column_eq (by omega) (same 0 (by omega))
  have sums := modEq_of_column_eq (by omega) (same 1 (by omega))
  simp only [Nat.cast_zero, mul_zero, zero_add] at shifts
  simp only [Nat.cast_one, mul_one] at sums
  exact ⟨Int.ModEq.add_right_cancel shifts sums, shifts⟩

theorem not_one_modEq_neg_one {width : Nat} (three_le : 3 ≤ width) :
    ¬ (1 : Int) ≡ -1 [ZMOD width] := by
  intro congruent
  have divides : (width : Int) ∣ 2 := by simpa using congruent.symm.dvd
  have bound := Int.le_of_dvd (by decide) divides
  omega

theorem odd_iff_and_modEq_of_ofOperations_modEq {first second : List Operation} {width : Nat}
    (three_le : 3 ≤ width)
    (signs : (ofOperations first).sign ≡ (ofOperations second).sign [ZMOD width])
    (shifts : (ofOperations first).shift ≡ (ofOperations second).shift [ZMOD width]) :
    (Odd (first.count .horizontalFlip) ↔ Odd (second.count .horizontalFlip)) ∧
      Operation.netRotation first ≡ Operation.netRotation second [ZMOD width] := by
  have distinct := not_one_modEq_neg_one three_le
  rw [ofOperations_eq, ofOperations_eq] at signs shifts
  -- the signs decide whether the parities agree; where they do, so do the shifts behind them
  by_cases odd : Odd (first.count .horizontalFlip) <;>
    by_cases odd' : Odd (second.count .horizontalFlip) <;>
    simp only [odd, odd', if_true, if_false] at signs shifts
  · have rotations := shifts.add_right 1
    rw [sub_add_cancel, sub_add_cancel] at rotations
    exact ⟨iff_of_true odd odd', rotations⟩
  · exact absurd signs.symm distinct
  · exact absurd signs distinct
  · have rotations := shifts.neg
    rw [neg_neg, neg_neg] at rotations
    exact ⟨iff_of_false odd odd', rotations⟩

end ColumnMap

/-! ## Agreement -/

namespace Operation

/-- Two lists of operations have the same parity of vertical flips, the same parity of horizontal
flips, and on grids of some width the same net rotation. -/
structure Agree (width : Nat) (first second : List Operation) : Prop where
  verticalFlips : Odd (first.count .verticalFlip) ↔ Odd (second.count .verticalFlip)
  horizontalFlips : Odd (first.count .horizontalFlip) ↔ Odd (second.count .horizontalFlip)
  rotations : netRotation first % width = netRotation second % width

variable {first second : List Operation} {g : Grid α}

theorem Agree.origin_eq {height width : Nat} (agree : Agree width first second)
    (place : Coordinate) : origin first height width place = origin second height width place := by
  obtain ⟨vertical, horizontal, rotations⟩ := agree
  have congruent : netRotation first ≡ netRotation second [ZMOD width] := rotations
  simp only [origin, vertical, ColumnMap.ofOperations_eq, horizontal]
  by_cases odd : Odd (second.count .horizontalFlip)
  · simp only [odd, if_true, ColumnMap.column_eq_of_modEq_shift (congruent.sub_right 1)]
  · simp only [odd, if_false, ColumnMap.column_eq_of_modEq_shift congruent.neg]

/-- Lists of operations that agree do the same to a grid. -/
theorem Agree.applyAll_eq (agree : Agree g.width first second) :
    applyAll first g = applyAll second g := by
  apply Grid.ext_get?
  · rw [height_applyAll, height_applyAll]
  · rw [width_applyAll, width_applyAll]
  · intro place reached
    have onGrid : g.Reaches place := (rearranges_applyAll first g).reaches_iff.mp reached
    rw [get?_applyAll first g onGrid, get?_applyAll second g onGrid, agree.origin_eq]

theorem origin_eq_of_applyAll_eq (same : applyAll first g = applyAll second g)
    {place : Coordinate} (reached : g.Reaches place) :
    origin first g.height g.width place = origin second g.height g.width place := by
  obtain ⟨cell, taken⟩ := Grid.exists_get?_eq_some (origin_reached first g reached)
  have taken' : g.get? (origin second g.height g.width place) = some cell := by
    rw [← taken, ← get?_applyAll first g reached, ← get?_applyAll second g reached, same]
  exact Grid.get?_injective taken taken'

theorem odd_iff_of_origin_row_eq {height width : Nat} {column : Nat} (two_le : 2 ≤ height)
    (same : (origin first height width ⟨0, column⟩).row =
      (origin second height width ⟨0, column⟩).row) :
    Odd (first.count .verticalFlip) ↔ Odd (second.count .verticalFlip) := by
  -- with two rows the first and the last one differ
  simp only [origin] at same
  split at same <;> split at same
  · next odd odd' => exact iff_of_true odd odd'
  · omega
  · omega
  · next odd odd' => exact iff_of_false odd odd'

/-- On two rows and three columns lists of operations that do the same agree. -/
theorem agree_of_applyAll_eq (two_le : 2 ≤ g.height) (three_le : 3 ≤ g.width)
    (same : applyAll first g = applyAll second g) : Agree g.width first second := by
  have origins : ∀ j < g.width,
      origin first g.height g.width ⟨0, j⟩ = origin second g.height g.width ⟨0, j⟩ :=
    fun j inside => origin_eq_of_applyAll_eq same ⟨g.height_pos, inside⟩
  have row := congrArg Coordinate.row (origins 0 g.width_pos)
  have columns := fun j inside => congrArg Coordinate.column (origins j inside)
  obtain ⟨signs, shifts⟩ := ColumnMap.modEq_of_forall_column_eq (by omega) columns
  obtain ⟨horizontal, rotations⟩ :=
    ColumnMap.odd_iff_and_modEq_of_ofOperations_modEq three_le signs shifts
  exact ⟨odd_iff_of_origin_row_eq two_le row, horizontal, rotations⟩

/-! ## Normal forms -/

/-- The normal form of a list of operations: at most one vertical and one horizontal flip, and
behind them a rotation. -/
def normalForm (operations : List Operation) (amount : Int64) : List Operation :=
  (if Odd (operations.count .verticalFlip) then [.verticalFlip] else []) ++
    (if Odd (operations.count .horizontalFlip) then [.horizontalFlip] else []) ++
    [.rotate amount]

theorem agree_normalForm {operations : List Operation} {amount : Int64} {width : Nat}
    (reduced : amount.toInt = netRotation operations % width) :
    Agree width operations (normalForm operations amount) := by
  by_cases vertical : Odd (operations.count .verticalFlip) <;>
    by_cases horizontal : Odd (operations.count .horizontalFlip) <;>
    constructor <;> simp [normalForm, vertical, horizontal, netRotation, reduced]

theorem exists_toInt_eq_emod {width : Nat} (width_pos : 0 < width) (width_le : width ≤ 2 ^ 63)
    (n : Int) : ∃ amount : Int64, amount.toInt = n % width := by
  have nonneg := Int.emod_nonneg n (Int.natCast_ne_zero.mpr width_pos.ne')
  have lt := Int.emod_lt_of_pos n (Int.natCast_pos.mpr width_pos)
  refine ⟨Int64.ofInt (n % width), Int64.toInt_ofInt_of_le ?_ ?_⟩ <;> omega

/-- Every list of operations does what its normal form does: the flips with an odd count, and behind
them the net rotation reduced to the width, as soon as a signed word can hold it.  On a grid with
two rows and three columns lists of operations do the same only if their normal forms agree. -/
theorem applyAll_eq_applyAll_normalForm (g : Grid α) :
    (∀ operations : List Operation,
      (g.width ≤ 2 ^ 63 → ∃ amount : Int64, amount.toInt = netRotation operations % g.width) ∧
      ∀ amount : Int64, amount.toInt = netRotation operations % g.width →
        applyAll operations g = applyAll (normalForm operations amount) g) ∧
    (2 ≤ g.height → 3 ≤ g.width → ∀ first second : List Operation,
      applyAll first g = applyAll second g ↔
        (Odd (first.count .verticalFlip) ↔ Odd (second.count .verticalFlip)) ∧
        (Odd (first.count .horizontalFlip) ↔ Odd (second.count .horizontalFlip)) ∧
        netRotation first % g.width = netRotation second % g.width) := by
  refine ⟨fun operations => ⟨?_, ?_⟩, ?_⟩
  · intro width_le
    exact exists_toInt_eq_emod g.width_pos width_le (netRotation operations)
  · intro amount reduced
    exact (agree_normalForm reduced).applyAll_eq
  · intro two_le three_le first second
    constructor
    · intro same
      obtain ⟨vertical, horizontal, rotations⟩ := agree_of_applyAll_eq two_le three_le same
      exact ⟨vertical, horizontal, rotations⟩
    · rintro ⟨vertical, horizontal, rotations⟩
      exact Agree.applyAll_eq ⟨vertical, horizontal, rotations⟩

/-- The least amount behind two flips comes to nine columns of ten, and a flip does not commute
with a rotation. -/
theorem applyAll_eq_applyAll_normalForm_qwerty :
    applyAll [.rotate 3, .horizontalFlip, .verticalFlip, .rotate Int64.minValue] Layout.qwerty =
        applyAll [.verticalFlip, .horizontalFlip, .rotate 9] Layout.qwerty ∧
      applyAll [.rotate 3, .horizontalFlip] Layout.qwerty ≠
        applyAll [.horizontalFlip, .rotate 3] Layout.qwerty := by
  obtain ⟨normal, unique⟩ := applyAll_eq_applyAll_normalForm Layout.qwerty
  refine ⟨(normal _).2 9 (by decide), fun same => ?_⟩
  obtain ⟨_, _, rotations⟩ := (unique (by decide) (by decide) _ _).mp same
  exact absurd rotations (by decide)

end Operation

end LayoutCipher
