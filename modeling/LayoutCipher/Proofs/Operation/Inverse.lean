import LayoutCipher.Proofs.Operation.NormalForm
import Mathlib.Data.List.Forall2

/-!
# Inverse operations

Flips undo themselves, and a rotation is undone by any other whose amount is opposite to its own up
to whole widths.  Undoing the operations of a list from last to first brings every grid of that
width back.
-/

namespace LayoutCipher.Operation

variable {α : Type}

/-- An operation is undone by another one on the grids of some width. -/
inductive UndoneBy (width : Nat) : Operation → Operation → Prop where
  | horizontalFlip : UndoneBy width .horizontalFlip .horizontalFlip
  | verticalFlip : UndoneBy width .verticalFlip .verticalFlip
  | rotate {amount back : Int64} (opposite : back.toInt ≡ -amount.toInt [ZMOD width]) :
      UndoneBy width (.rotate amount) (.rotate back)

/-- The operations of a list are undone one by one, from last to first. -/
def IsInverse (width : Nat) (operations inverse : List Operation) : Prop :=
  List.Forall₂ (UndoneBy width) operations.reverse inverse

theorem UndoneBy.symm {width : Nat} {operation back : Operation}
    (undone : UndoneBy width operation back) : UndoneBy width back operation := by
  cases undone with
  | horizontalFlip => exact .horizontalFlip
  | verticalFlip => exact .verticalFlip
  | rotate opposite =>
      have negated := opposite.neg.symm
      rw [neg_neg] at negated
      exact .rotate negated

theorem IsInverse.symm {width : Nat} {operations inverse : List Operation}
    (inverts : IsInverse width operations inverse) : IsInverse width inverse operations := by
  have backward : List.Forall₂ (UndoneBy width) inverse operations.reverse :=
    List.Forall₂.flip (inverts.imp fun _ _ undone => undone.symm)
  have reversed := List.forall₂_reverse_iff.mpr backward
  rwa [List.reverse_reverse] at reversed

theorem UndoneBy.agree {width : Nat} {operation back : Operation}
    (undone : UndoneBy width operation back) : Agree width [operation, back] [] := by
  cases undone with
  | horizontalFlip => exact ⟨by decide, by decide, rfl⟩
  | verticalFlip => exact ⟨by decide, by decide, rfl⟩
  | @rotate amount back opposite =>
      have cancelled := opposite.add_left amount.toInt
      rw [add_neg_cancel] at cancelled
      have net : netRotation [.rotate amount, .rotate back] = amount.toInt + back.toInt := by
        simp [netRotation]
      exact ⟨by simp, by simp, net ▸ cancelled⟩

theorem apply_apply_of_undoneBy {operation back : Operation} {g : Grid α}
    (undone : UndoneBy g.width operation back) : back.apply (operation.apply g) = g :=
  undone.agree.applyAll_eq

/-- Operations and their inverse together leave a grid as it was. -/
theorem IsInverse.applyAll_append {operations inverse : List Operation} {g : Grid α}
    (inverts : IsInverse g.width operations inverse) :
    applyAll (operations ++ inverse) g = g := by
  induction operations using List.reverseRecOn generalizing inverse with
  | nil =>
      cases inverts
      rfl
  | append_singleton operations operation ih =>
      rw [IsInverse, List.reverse_append] at inverts
      cases inverts with
      | @cons _ back _ rest undone inverts =>
          -- the last operation meets the first of the inverse, and both disappear
          rw [← width_applyAll operations g] at undone
          have cancelled := apply_apply_of_undoneBy undone
          calc applyAll ((operations ++ [operation]) ++ back :: rest) g
              = applyAll rest (back.apply (operation.apply (applyAll operations g))) := by
                rw [Operation.applyAll_append, Operation.applyAll_append]
                rfl
            _ = applyAll (operations ++ rest) g := by
                rw [cancelled, Operation.applyAll_append]
            _ = g := ih inverts

theorem exists_undoneBy {width : Nat} (width_pos : 0 < width) (width_le : width ≤ 2 ^ 63)
    (operation : Operation) : ∃ back, UndoneBy width operation back := by
  cases operation with
  | horizontalFlip => exact ⟨_, .horizontalFlip⟩
  | verticalFlip => exact ⟨_, .verticalFlip⟩
  | rotate amount =>
      obtain ⟨back, reduced⟩ := exists_toInt_eq_emod width_pos width_le (-amount.toInt)
      refine ⟨.rotate back, .rotate ?_⟩
      rw [reduced]
      exact Int.mod_modEq ..

theorem exists_isInverse {width : Nat} (width_pos : 0 < width) (width_le : width ≤ 2 ^ 63)
    (operations : List Operation) : ∃ inverse, IsInverse width operations inverse := by
  unfold IsInverse
  induction operations.reverse with
  | nil => exact ⟨[], .nil⟩
  | cons operation rest ih =>
      obtain ⟨back, undone⟩ := exists_undoneBy width_pos width_le operation
      obtain ⟨inverse, inverts⟩ := ih
      exact ⟨back :: inverse, .cons undone inverts⟩

end LayoutCipher.Operation
