import LayoutCipher.Proofs.Access.Grids
import LayoutCipher.Proofs.Access.Texts

/-!
# No access goes wrong

The guarded computations never come to a trap, and what they come to is what checking, reading and
rearranging come to without guards.  Each access leans on something that was settled before it: the
third pass on the first, an amount on the passes, and the rows of a grid on the way it was built.
-/

namespace LayoutCipher.Guarded

/-- Every text can be checked, and read with one turn at most for each character.  In a cipher that
passes the checks a turn moves on within the text from wherever it starts, and only an amount that
is too large stops it.  Amounts can be scanned at any position.  A grid that was built, and every
one that is reached from it, can be cut into rows, indexed and rearranged. -/
theorem no_trap {α : Type} [DecidableEq α] :
    (∀ cipher : String,
      check cipher.toList = .ok (Cipher.check cipher) ∧
      operations cipher = .ok (some (Cipher.operations cipher)) ∧
      (Cipher.check cipher = .ok () → ∀ progress : Progress, progress.position < cipher.length →
        ∃ result, turn cipher.toList progress = .ok result ∧
          (∀ next, result = .ok next →
            progress.position < next.position ∧ next.position ≤ cipher.length) ∧
          ∀ fault, result = .error fault →
            fault = .shiftAmountOutOfRange (progress.position + 1))) ∧
    (∀ text start, scan text start = .ok (Cipher.scanAmount text start)) ∧
    ∀ (rows : List (List α)) (built : Grid α), Grid.ofRows rows = .ok built →
      (∀ reached, built.Reachable reached → (Stored.ofRows rows).Reaches reached.stored) ∧
      ∀ s, (Stored.ofRows rows).Reaches s →
        0 < s.columns ∧
        ∃ reached, built.Reachable reached ∧
          s = reached.stored ∧
          s.iterRows = .ok reached.rows ∧
          s.index = .ok reached.index ∧
          ∀ operation : Operation, s.apply operation = .ok (operation.apply reached).stored := by
  refine ⟨fun cipher => ⟨check_eq cipher.toList, operations_eq cipher, ?_⟩, scan_eq, ?_⟩
  · intro passed progress inside
    exact turn_safe passed inside
  · intro rows built accepted
    rw [← Stored.stored_eq_ofRows accepted]
    refine ⟨fun reached => Stored.reaches_of_reachable, fun s reaches => ?_⟩
    obtain ⟨reached, reachable, rfl⟩ := reaches.exists_reachable
    exact ⟨reached.width_pos, reached, reachable, rfl, Stored.iterRows_stored reached,
      Stored.index_stored reached, (Stored.apply_stored · reached)⟩

/-- A cipher with a negative amount, one with an amount that is too large, and the built-in layout
after a flip and a rotation by whole turns. -/
theorem no_trap_qwerty :
    operations "HS-12V3" =
        .ok (some (.ok [.horizontalFlip, .rotate (-12), .verticalFlip])) ∧
      (∃ result, turn "HS-12V3".toList ⟨1, [.horizontalFlip]⟩ = .ok result ∧
        ∀ next, result = .ok next → 1 < next.position ∧ next.position ≤ 7) ∧
      operations "VS9223372036854775808" = .ok (some (.error (.shiftAmountOutOfRange 2))) ∧
      ∃ reached, Layout.qwerty.Reachable reached ∧
        (Stored.ofRows Layout.qwerty.rows).Reaches reached.stored ∧
        0 < reached.stored.columns := by
  obtain ⟨ciphers, _, grids⟩ := @no_trap Char _
  have read : Cipher.operations "HS-12V3" =
      .ok [.horizontalFlip, .rotate (-12), .verticalFlip] := by decide +kernel
  have failed : Cipher.operations "VS9223372036854775808" =
      .error (.shiftAmountOutOfRange 2) := by decide +kernel
  obtain ⟨_, ends, turns⟩ := ciphers "HS-12V3"
  obtain ⟨result, turned, moves, _⟩ :=
    turns (by decide) ⟨1, [.horizontalFlip]⟩ (by decide)
  obtain ⟨reaches, safe⟩ := grids _ _ (Grid.ofRows_rows Layout.qwerty)
  have reachable : Layout.qwerty.Reachable _ := .applyAll .built [.verticalFlip, .rotate 20]
  refine ⟨read ▸ ends, ⟨result, turned, moves⟩, failed ▸ (ciphers _).2.1, _, reachable,
    reaches _ reachable, (safe _ (reaches _ reachable)).1⟩

end LayoutCipher.Guarded
