import LayoutCipher.Proofs.Layout.Substitution
import Mathlib.Data.List.Forall2

/-!
# Retyping between any layouts

The two layouts of a retyping need not have a shape or a key in common.  A key answers a character
if it stands on the one layout where the character stands on the other.  Every cell has one
coordinate only, so answers can be turned around, and a character and the key that answers it have
the same answers on any third layout.  That is all that retyping needs in order to be undone, to be
continued, and to fail at one position whichever of the two layouts it starts from.
-/

namespace LayoutCipher.Layout

variable {base middle : Layout}

/-! ## Answers -/

/-- The key stands on the second layout where the character stands on the first. -/
def Answers (base other : Layout) (c key : Char) : Prop :=
  ∃ place, base.get? place = some c ∧ other.get? place = some key

theorem Answers.symm {c key : Char} (answers : base.Answers middle c key) :
    middle.Answers base key c := by
  obtain ⟨place, typed, read⟩ := answers
  exact ⟨place, read, typed⟩

theorem counterpart?_eq_some_iff {c key : Char} :
    counterpart? base.index middle c = some key ↔ base.Answers middle c key := by
  simp only [counterpart?, Option.bind_eq_some_iff, Grid.lookup_index_eq_some_iff, Answers]

theorem Answers.counterpart?_eq {c key : Char} (answers : base.Answers middle c key)
    (other : Layout) :
    counterpart? middle.index other key = counterpart? base.index other c := by
  obtain ⟨place, typed, read⟩ := answers
  rw [counterpart?_of_get?_eq_some read, counterpart?_of_get?_eq_some typed]

/-! ## Texts -/

theorem retypeFrom_eq_ok_iff (position : Nat) {input output : List Char} :
    retypeFrom base.index middle position input = .ok output ↔
      List.Forall₂ (base.Answers middle) input output := by
  constructor
  · intro retyped
    induction input generalizing position output with
    | nil =>
        cases retyped
        exact .nil
    | cons c rest ih =>
        rw [retypeFrom] at retyped
        cases found : counterpart? base.index middle c with
        | none => simp [found] at retyped
        | some key =>
            cases read : retypeFrom base.index middle (position + 1) rest with
            | error fault => simp [found, read] at retyped
            | ok keys =>
                obtain rfl : key :: keys = output := by simpa [found, read] using retyped
                exact .cons (counterpart?_eq_some_iff.mp found) (ih _ read)
  · intro answered
    induction answered generalizing position with
    | nil => rfl
    | cons answers _ ih =>
        rw [retypeFrom, counterpart?_eq_some_iff.mpr answers, ih]
        rfl

theorem retype_eq_ok_iff {input output : String} :
    base.retype middle input = .ok output ↔
      List.Forall₂ (base.Answers middle) input.toList output.toList := by
  rw [← retypeFrom_eq_ok_iff 0, retype]
  cases retypeFrom base.index middle 0 input.toList with
  | error fault => simp
  | ok keys => simp [← String.toList_inj]

/-! ## Third layouts -/

/-- Two retypings end alike if they give the same, or if both fail at one position, each with the
character of its own text there. -/
inductive EndAlike {α : Type} (position : Nat) (first second : List Char) :
    Except Fault α → Except Fault α → Prop where
  | ok (result : α) : EndAlike position first second (.ok result) (.ok result)
  | error {i : Nat} {c key : Char} (here : first[i]? = some c) (there : second[i]? = some key) :
      EndAlike position first second (.error (.characterNotOnGrid (position + i) c))
        (.error (.characterNotOnGrid (position + i) key))

namespace EndAlike

variable {α β : Type} {position : Nat} {first second : List Char} {ending ending' : Except Fault α}

theorem map (alike : EndAlike position first second ending ending') (f : α → β) :
    EndAlike position first second (f <$> ending) (f <$> ending') := by
  cases alike with
  | ok result => exact .ok (f result)
  | error here there => exact .error here there

theorem cons (alike : EndAlike (position + 1) first second ending ending') (c key : Char) :
    EndAlike position (c :: first) (key :: second) ending ending' := by
  cases alike with
  | ok result => exact .ok result
  | @error i _ _ here there =>
      rw [Nat.add_assoc, Nat.add_comm 1 i]
      exact .error here there

end EndAlike

theorem retypeFrom_endAlike {input output : List Char}
    (answered : List.Forall₂ (base.Answers middle) input output) (other : Layout)
    (position : Nat) :
    EndAlike position input output (retypeFrom base.index other position input)
      (retypeFrom middle.index other position output) := by
  induction answered generalizing position with
  | nil => exact .ok []
  | @cons c key rest keys answers _ ih =>
      rw [retypeFrom, retypeFrom, answers.counterpart?_eq other]
      cases counterpart? base.index other c with
      | none => exact .error (i := 0) rfl rfl
      | some next => exact ((ih (position + 1)).cons c key).map (next :: ·)

theorem retype_endAlike {input output : String} (retyped : base.retype middle input = .ok output)
    (other : Layout) :
    EndAlike 0 input.toList output.toList (base.retype other input)
      (middle.retype other output) :=
  (retypeFrom_endAlike (retype_eq_ok_iff.mp retyped) other 0).map String.ofList

theorem retype_symm {input output : String} (retyped : base.retype middle input = .ok output) :
    middle.retype base output = .ok input :=
  retype_eq_ok_iff.mpr <| List.Forall₂.flip <|
    (retype_eq_ok_iff.mp retyped).imp fun _ _ answers => answers.symm

/-- What has been retyped is retyped back.  Retyping it on, from the second layout to any third,
ends like retyping the input from the first: with the same output or without one, and then at the
same position, each with the character of its own text there. -/
theorem retype_back_and_on {input output : String}
    (retyped : base.retype middle input = .ok output) :
    middle.retype base output = .ok input ∧
    ∀ other : Layout,
      (∀ final, middle.retype other output = .ok final ↔
        base.retype other input = .ok final) ∧
      ∀ fault fault', middle.retype other output = .error fault →
        base.retype other input = .error fault' →
        ∃ i key c, output.toList[i]? = some key ∧ input.toList[i]? = some c ∧
          fault = .characterNotOnGrid i key ∧ fault' = .characterNotOnGrid i c := by
  refine ⟨retype_symm retyped, fun other => ?_⟩
  have alike := retype_endAlike retyped other
  generalize base.retype other input = direct at alike ⊢
  generalize middle.retype other output = stepwise at alike ⊢
  cases alike with
  | ok final => exact ⟨fun _ => Iff.rfl, nofun⟩
  | @error i c key here there =>
      refine ⟨fun _ => iff_of_false nofun nofun, ?_⟩
      rintro _ _ ⟨⟩ ⟨⟩
      rw [Nat.zero_add]
      exact ⟨i, key, c, there, here, rfl, rfl⟩

def twoByThree : Layout where
  rows := ["abc", "def"].map String.toList
  width := 3
  rows_ne_nil := by decide
  width_pos := by decide
  length_of_mem := by decide
  nodup := by decide

def oneByTwo : Layout where
  rows := ["xy"].map String.toList
  width := 2
  rows_ne_nil := by decide
  width_pos := by decide
  length_of_mem := by decide
  nodup := by decide

/-- From ten columns to three and back; on two columns in one row the second character has no key,
whichever of the two texts is typed. -/
theorem retype_back_and_on_twoByThree :
    qwerty.retype twoByThree "1W" = .ok "ae" ∧ twoByThree.retype qwerty "ae" = .ok "1W" ∧
      ∃ i key c, "ae".toList[i]? = some key ∧ "1W".toList[i]? = some c ∧
        twoByThree.retype oneByTwo "ae" = .error (.characterNotOnGrid i key) ∧
        qwerty.retype oneByTwo "1W" = .error (.characterNotOnGrid i c) := by
  have retyped : qwerty.retype twoByThree "1W" = .ok "ae" :=
    retype_eq_ok_iff.mpr (.cons ⟨⟨0, 0⟩, rfl, rfl⟩ (.cons ⟨⟨1, 1⟩, rfl, rfl⟩ .nil))
  have failed : twoByThree.retype oneByTwo "ae" = .error (.characterNotOnGrid 1 'e') := by
    decide +kernel
  have failed' : qwerty.retype oneByTwo "1W" = .error (.characterNotOnGrid 1 'W') := by
    decide +kernel
  obtain ⟨back, on⟩ := retype_back_and_on retyped
  obtain ⟨i, key, c, there, here, fault, fault'⟩ := (on oneByTwo).2 _ _ failed failed'
  rw [fault] at failed
  rw [fault'] at failed'
  exact ⟨retyped, back, i, key, c, there, here, failed, failed'⟩

end LayoutCipher.Layout
