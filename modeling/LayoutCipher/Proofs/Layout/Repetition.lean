import LayoutCipher.Proofs.Layout.Composition
import LayoutCipher.Proofs.Operation.NormalForm
import Mathlib.Algebra.BigOperators.Group.List.Basic

/-!
# Ciphers executed again and again

A cipher that is executed on its own output often enough gives the input back, and how often that is
depends on the number of columns alone.  Repeated operations are rotations or reflections of the
columns, with or without the rows turned around.  An even number of repetitions cancels every flip,
and reflections with them.  A rotation that is left grows with the number of repetitions, and is
whole widths once the width divides that number.
-/

namespace LayoutCipher

namespace Operation

/-! ## Repeated operations -/

theorem count_flatten_replicate (operations : List Operation) (times : Nat)
    (operation : Operation) :
    (List.replicate times operations).flatten.count operation =
      times * operations.count operation := by
  simp [List.count_flatten]

/-- Reflections cancel in pairs, rotations add up. -/
theorem netRotation_flatten_replicate (operations : List Operation) (times : Nat) :
    netRotation (List.replicate times operations).flatten =
      if Odd (operations.count .horizontalFlip) then
        if Odd times then netRotation operations else 0
      else times * netRotation operations := by
  induction times with
  | zero => simp [netRotation]
  | succ times ih =>
      rw [List.replicate_succ, List.flatten_cons, netRotation_append, count_flatten_replicate, ih]
      by_cases reflects : Odd (operations.count .horizontalFlip)
      · by_cases odd : Odd times <;> simp [reflects, odd, Nat.odd_mul, Nat.odd_add_one]
      · simp only [reflects, Nat.odd_mul, and_false, if_false]
        push_cast
        ring

theorem agree_flatten_replicate {width times : Nat} (even : 2 ∣ times) (whole : width ∣ times)
    (operations : List Operation) :
    Agree width (List.replicate times operations).flatten [] := by
  have notOdd : ¬ Odd times := Nat.not_odd_iff_even.mpr (even_iff_two_dvd.mpr even)
  refine ⟨?_, ?_, ?_⟩
  · simp [count_flatten_replicate, Nat.odd_mul, notOdd]
  · simp [count_flatten_replicate, Nat.odd_mul, notOdd]
  · rw [netRotation_flatten_replicate, if_neg notOdd]
    split
    · rfl
    · exact Int.emod_eq_zero_of_dvd ((Int.natCast_dvd_natCast.mpr whole).mul_right _)

end Operation

namespace Layout

open Operation (applyAll)

/-! ## Repeated executions -/

/-- Executes a cipher a number of times, first on the input and then on each output. -/
def executeTimes (layout : Layout) (cipher : String) : Nat → String → Logged Fault String
  | 0, input => pure input
  | times + 1, input => do
      let output ← layout.execute cipher input
      layout.executeTimes cipher times output

variable {layout : Layout} {cipher input : String} {operations : List Operation}

/-- Executing a cipher repeatedly is executing its repeated operations once. -/
theorem outcome_executeTimes (parsed : (Cipher.parse cipher).outcome = .ok operations)
    (accepted : layout.checkInput input = .ok ()) (times : Nat) :
    (layout.executeTimes cipher times input).outcome =
      .ok (input.map (substitution layout
        (applyAll (List.replicate times operations).flatten layout))) := by
  induction times generalizing input with
  | zero =>
      have typable := (checkInput_eq_ok_iff.mp accepted).2
      exact congrArg Except.ok (map_substitution_self typable).symm
  | succ times ih =>
      have typable := (checkInput_eq_ok_iff.mp accepted).2
      have between := checkInput_map_substitution
        (Operation.rearranges_applyAll operations layout) accepted
      rw [executeTimes, Logged.outcome_bind, outcome_execute_of_ok parsed accepted,
        List.replicate_succ', List.flatten_append, List.flatten_singleton,
        ← map_substitution_applyAll_append typable]
      exact ih between

/-- Every cipher that can be read comes back.  It can be executed again and again, each output being
accepted as an input, and after as many times as the least common multiple of two and the number of
columns it has given the first input again. -/
theorem outcome_executeTimes_lcm (parsed : (Cipher.parse cipher).outcome = .ok operations)
    (accepted : layout.checkInput input = .ok ()) :
    (∀ times, ∃ output, (layout.executeTimes cipher times input).outcome = .ok output ∧
      layout.checkInput output = .ok ()) ∧
    (layout.executeTimes cipher (Nat.lcm 2 layout.width) input).outcome = .ok input := by
  constructor
  · intro times
    exact ⟨_, outcome_executeTimes parsed accepted times,
      checkInput_map_substitution (Operation.rearranges_applyAll _ layout) accepted⟩
  · have agree : Operation.Agree layout.width
        (List.replicate (Nat.lcm 2 layout.width) operations).flatten [] :=
      Operation.agree_flatten_replicate (Nat.dvd_lcm_left ..) (Nat.dvd_lcm_right ..) operations
    rw [outcome_executeTimes parsed accepted, agree.applyAll_eq]
    exact congrArg Except.ok (map_substitution_self (checkInput_eq_ok_iff.mp accepted).2)

/-- On the ten columns of the built-in layout `VS3` comes back after ten times. -/
theorem outcome_executeTimes_lcm_qwerty :
    (Cipher.parse "VS3").outcome = .ok [.verticalFlip, .rotate 3] ∧
      qwerty.checkInput "DOG" = .ok () ∧
      (∃ output, (qwerty.executeTimes "VS3" 7 "DOG").outcome = .ok output ∧
        qwerty.checkInput output = .ok ()) ∧
      (qwerty.executeTimes "VS3" 10 "DOG").outcome = .ok "DOG" := by
  have parsed : (Cipher.parse "VS3").outcome = .ok [.verticalFlip, .rotate 3] := by
    decide +kernel
  have accepted : qwerty.checkInput "DOG" = .ok () := by decide +kernel
  obtain ⟨succeeds, returns⟩ := outcome_executeTimes_lcm parsed accepted
  exact ⟨parsed, accepted, succeeds 7, returns⟩

end Layout

end LayoutCipher
