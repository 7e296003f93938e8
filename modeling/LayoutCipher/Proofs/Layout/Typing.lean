import LayoutCipher.Proofs.Layout.Retyping
import LayoutCipher.Proofs.Layout.Stages

/-!
# Typing and checking

The check of an input and its retyping walk through the same characters on their own.  The check
asks for each character whether the layout has it; the retyping asks in addition whether the second
layout reaches the coordinate it was found at.  Where the second layout is at least as high and as
wide as the first, the additional question never matters, and both stop at the same character.
-/

namespace LayoutCipher.Layout

variable {base other : Layout} {input : String} {fault : Fault}

/-- The character stands on the first layout at a coordinate that the second one reaches. -/
def Retypable (base other : Layout) (c : Char) : Prop :=
  ∃ place, base.get? place = some c ∧ other.Reaches place

/-- The character at a position of an input cannot be retyped. -/
def StuckAt (base other : Layout) (input : List Char) (i : Nat) : Prop :=
  ∃ c, input[i]? = some c ∧ ¬ base.Retypable other c

/-! ## Retyping -/

theorem retypable_iff_exists_answers {c : Char} :
    base.Retypable other c ↔ ∃ key, base.Answers other c key := by
  simp only [Retypable, Answers, ← Grid.isSome_get?_iff, Option.isSome_iff_exists]
  constructor
  · rintro ⟨place, typed, key, read⟩
    exact ⟨key, place, typed, read⟩
  · rintro ⟨key, place, typed, read⟩
    exact ⟨place, typed, key, read⟩

theorem isNone_counterpart?_iff {c : Char} :
    (counterpart? base.index other c).isNone ↔ ¬ base.Retypable other c := by
  simp [retypable_iff_exists_answers, Option.eq_none_iff_forall_ne_some, counterpart?_eq_some_iff]

theorem retypeFrom_eq_error_iff (position : Nat) {input : List Char} :
    retypeFrom base.index other position input = .error fault ↔
      ∃ c i, (input.zipIdx position).find?
          (fun entry => (counterpart? base.index other entry.1).isNone) = some (c, i) ∧
        fault = .characterNotOnGrid i c := by
  induction input generalizing position with
  | nil => simp [retypeFrom]
  | cons c rest ih =>
      rw [retypeFrom, List.zipIdx_cons, List.find?_cons]
      cases found : counterpart? base.index other c with
      | none => simp [eq_comm]
      | some key =>
          simp only [Option.isNone_some]
          rw [← ih (position + 1)]
          cases retypeFrom base.index other (position + 1) rest <;> simp

theorem find?_stuck_eq_some_iff {c : Char} {i : Nat} {input : List Char} :
    input.zipIdx.find? (fun entry => (counterpart? base.index other entry.1).isNone) =
        some (c, i) ↔
      input[i]? = some c ∧ IsLeast {i | base.StuckAt other input i} i := by
  rw [Cipher.find?_zipIdx_eq_some_iff (p := fun c => (counterpart? base.index other c).isNone)]
  simp only [isNone_counterpart?_iff, StuckAt]

/-- A retyping stops at the first character that cannot be retyped. -/
theorem retype_eq_error_iff :
    base.retype other input = .error fault ↔
      ∃ i c, input.toList[i]? = some c ∧ IsLeast {i | base.StuckAt other input.toList i} i ∧
        fault = .characterNotOnGrid i c := by
  have ends : base.retype other input = .error fault ↔
      retypeFrom base.index other 0 input.toList = .error fault := by
    rw [retype]
    cases retypeFrom base.index other 0 input.toList <;> simp
  rw [ends, retypeFrom_eq_error_iff]
  simp only [find?_stuck_eq_some_iff, and_assoc]
  exact exists_comm

theorem retypable_of_forall₂ {input output : List Char}
    (answered : List.Forall₂ (base.Answers other) input output) :
    ∀ c ∈ input, base.Retypable other c := by
  induction answered with
  | nil => simp
  | cons answers _ ih =>
      exact List.forall_mem_cons.mpr ⟨retypable_iff_exists_answers.mpr ⟨_, answers⟩, ih⟩

/-- A retyping succeeds exactly if every character can be retyped. -/
theorem exists_retype_eq_ok_iff :
    (∃ output, base.retype other input = .ok output) ↔
      ∀ c ∈ input.toList, base.Retypable other c := by
  constructor
  · rintro ⟨output, retyped⟩
    exact retypable_of_forall₂ (retype_eq_ok_iff.mp retyped)
  · intro all
    cases ended : base.retype other input with
    | ok output => exact ⟨output, rfl⟩
    | error fault =>
        obtain ⟨_, _, _, ⟨⟨c, here, stuck⟩, _⟩, _⟩ := retype_eq_error_iff.mp ended
        exact absurd (all c (List.mem_of_getElem? here)) stuck

/-! ## Checking -/

/-- On a layout that is as high and as wide, keys have their counterparts. -/
theorem retypable_iff_mem (height_le : base.height ≤ other.height)
    (width_le : base.width ≤ other.width) {c : Char} :
    base.Retypable other c ↔ c ∈ base.cells := by
  rw [Grid.mem_cells_iff_exists_get?, Retypable]
  refine exists_congr fun place => and_iff_left_of_imp fun typed => ?_
  obtain ⟨row_lt, column_lt⟩ := Grid.reaches_of_get?_eq_some typed
  exact ⟨row_lt.trans_le height_le, column_lt.trans_le width_le⟩

theorem retype_eq_error_iff_checkInput_eq_error (height_le : base.height ≤ other.height)
    (width_le : base.width ≤ other.width) (nonempty : input ≠ "") :
    base.retype other input = .error fault ↔ base.checkInput input = .error fault := by
  rw [retype_eq_error_iff, checkInput_eq_error_iff]
  simp [nonempty, StuckAt, UntypableAt, retypable_iff_mem height_le width_le]

/-- Retyping onto a layout that is at least as high and as wide fails exactly with the fault that
the check of the input finds; every layout that is reached from the first one is of this kind.  In
general a retyping succeeds if each character stands at a coordinate that the second layout reaches,
and reports the first that does not.  The empty input alone is judged differently. -/
theorem retype_eq_error_iff_checkInput (base other : Layout) (input : String) :
    (base.height ≤ other.height ∧ base.width ≤ other.width ∨ base.Reachable other →
      input ≠ "" → ∀ fault,
        base.retype other input = .error fault ↔ base.checkInput input = .error fault) ∧
    ((∃ output, base.retype other input = .ok output) ↔
      ∀ c ∈ input.toList, base.Retypable other c) ∧
    (∀ fault, base.retype other input = .error fault ↔
      ∃ i c, input.toList[i]? = some c ∧ IsLeast {i | base.StuckAt other input.toList i} i ∧
        fault = .characterNotOnGrid i c) ∧
    base.retype other "" = .ok "" ∧ base.checkInput "" = .error .emptyInput := by
  refine ⟨fun spacious nonempty fault => ?_, exists_retype_eq_ok_iff,
    fun fault => retype_eq_error_iff, rfl, rfl⟩
  obtain ⟨height_le, width_le⟩ | reachable := spacious
  · exact retype_eq_error_iff_checkInput_eq_error height_le width_le nonempty
  · have kept := reachable.rearranges
    exact retype_eq_error_iff_checkInput_eq_error kept.height_eq.ge kept.width_eq.ge nonempty

/-- From three columns to ten, and onto the same three turned around, retyping and check stop at the
same character.  Onto two columns retyping stops earlier, at a character that the check accepts. -/
theorem retype_eq_error_iff_checkInput_twoByThree :
    twoByThree.retype qwerty "fc?a!" = .error (.characterNotOnGrid 2 '?') ∧
      twoByThree.retype (Operation.horizontalFlip.apply twoByThree) "fc?a!" =
        .error (.characterNotOnGrid 2 '?') ∧
      ¬ (∃ output, twoByThree.retype oneByTwo "ac?" = .ok output) ∧
      ∃ i c, "ac?".toList[i]? = some c ∧
        IsLeast {i | twoByThree.StuckAt oneByTwo "ac?".toList i} i ∧
        twoByThree.checkInput "ac?" ≠ .error (.characterNotOnGrid i c) := by
  have refused : twoByThree.checkInput "fc?a!" = .error (.characterNotOnGrid 2 '?') := by
    decide +kernel
  have stopped : twoByThree.retype oneByTwo "ac?" = .error (.characterNotOnGrid 1 'c') := by
    decide +kernel
  have flipped : twoByThree.Reachable _ := Grid.Reachable.built.apply .horizontalFlip
  have wider := (retype_eq_error_iff_checkInput twoByThree qwerty "fc?a!").1
  have turned := (retype_eq_error_iff_checkInput twoByThree
    (Operation.horizontalFlip.apply twoByThree) "fc?a!").1
  obtain ⟨_, succeeds, stops, _⟩ := retype_eq_error_iff_checkInput twoByThree oneByTwo "ac?"
  obtain ⟨i, c, here, first, fault⟩ := (stops _).mp stopped
  have nonempty : "fc?a!" ≠ "" := by decide
  refine ⟨(wider (.inl (by decide)) nonempty _).mpr refused,
    (turned (.inr flipped) nonempty _).mpr refused, ?_, i, c, here, first, ?_⟩
  · rintro ⟨output, retyped⟩
    cases stopped.symm.trans retyped
  · rw [← fault]
    decide +kernel

end LayoutCipher.Layout
