import LayoutCipher.Proofs.Cipher.Positions
import LayoutCipher.Proofs.Grid.Reachable
import LayoutCipher.Proofs.Layout.Execution

/-!
# The stages of an execution

An execution checks the cipher, then the input, then the amounts of the cipher, and retypes the
input last.  `Executes` lists how it can end: the first stage that fails decides.  Two of its steps
cannot fail any more: the cipher has passed its check before it is read, and the retyping finds
every character, because the transformed layout has the shape of the one that was typed on.
-/

namespace LayoutCipher

namespace Cipher

/-- Once the passes have accepted a cipher, only an amount can keep it from being read. -/
theorem exists_outOfRange_of_outcome_parse_eq_error {cipher : String} {fault : Fault}
    (passed : (validate cipher).outcome = .ok ()) (failed : (parse cipher).outcome = .error fault) :
    ∃ position, fault = .shiftAmountOutOfRange position := by
  rw [outcome_validate] at passed
  have placed : WellPlaced cipher.toList := (checkChars_eq_ok_iff.mp passed).2.1
  rw [outcome_parse_of_ok passed] at failed
  obtain ⟨i, _, rfl⟩ := exists_overflowsAt_of_readEach_eq_error placed failed
  exact ⟨i + 1, rfl⟩

end Cipher

namespace Layout

open Operation (applyAll)

variable {layout : Layout} {cipher input : String}

/-! ## Inputs -/

/-- The character at a position of an input is on no key. -/
def UntypableAt (layout : Layout) (input : List Char) (i : Nat) : Prop :=
  ∃ c, input[i]? = some c ∧ c ∉ layout.cells

theorem find?_untypable_eq_some_iff {c : Char} {i : Nat} :
    input.toList.zipIdx.find? (fun entry => (layout.index.lookup entry.1).isNone) = some (c, i) ↔
      input.toList[i]? = some c ∧ IsLeast {i | layout.UntypableAt input.toList i} i := by
  rw [Cipher.find?_zipIdx_eq_some_iff (p := fun c => (layout.index.lookup c).isNone)]
  simp only [Grid.isNone_lookup_index_iff, UntypableAt]

theorem checkInput_eq_error_iff {fault : Fault} :
    layout.checkInput input = .error fault ↔ input = "" ∧ fault = .emptyInput ∨
      ∃ i c, input.toList[i]? = some c ∧ IsLeast {i | layout.UntypableAt input.toList i} i ∧
        fault = .characterNotOnGrid i c := by
  simp only [← and_assoc, ← find?_untypable_eq_some_iff]
  unfold checkInput
  split
  · next empty => simp [String.toList_eq_nil_iff.mp empty, eq_comm]
  · next nonempty =>
      rw [String.toList_eq_nil_iff] at nonempty
      dsimp only
      split
      · next c i found => simp [nonempty, found, eq_comm]
      · next found => simp [nonempty, found]

/-! ## Stages -/

/-- How an execution ends: with the fault of the cipher, else that of the input, else that of an
amount, and else with the input as it is typed on the layout and read on the transformed one. -/
inductive Executes (layout : Layout) (cipher input : String) : Except Fault String → Prop where
  | refusedCipher {fault : Fault} (refused : (Cipher.validate cipher).outcome = .error fault) :
      Executes layout cipher input (.error fault)
  | emptyInput (passed : (Cipher.validate cipher).outcome = .ok ()) (empty : input = "") :
      Executes layout cipher input (.error .emptyInput)
  | untypable {i : Nat} {c : Char} (passed : (Cipher.validate cipher).outcome = .ok ())
      (here : input.toList[i]? = some c)
      (first : IsLeast {i | layout.UntypableAt input.toList i} i) :
      Executes layout cipher input (.error (.characterNotOnGrid i c))
  | outOfRange {position : Nat} (passed : (Cipher.validate cipher).outcome = .ok ())
      (nonempty : input ≠ "") (typable : ∀ c ∈ input.toList, c ∈ layout.cells)
      (unread : (Cipher.parse cipher).outcome = .error (.shiftAmountOutOfRange position)) :
      Executes layout cipher input (.error (.shiftAmountOutOfRange position))
  | retyped {transformed : Layout} {output : String} (nonempty : input ≠ "")
      (typable : ∀ c ∈ input.toList, c ∈ layout.cells)
      (transforms : (layout.transform cipher).outcome = .ok transformed)
      (types : layout.retype transformed input = .ok output) :
      Executes layout cipher input (.ok output)

theorem checkInput_eq_ok_of_typable (nonempty : input ≠ "")
    (typable : ∀ c ∈ input.toList, c ∈ layout.cells) : layout.checkInput input = .ok () :=
  checkInput_eq_ok_iff.mpr ⟨fun empty => nonempty (String.toList_eq_nil_iff.mp empty), typable⟩

theorem exists_retype_eq_ok (operations : List Operation)
    (typable : ∀ c ∈ input.toList, c ∈ layout.cells) :
    ∃ output, layout.retype (applyAll operations layout) input = .ok output :=
  ⟨_, retype_eq_map (Operation.rearranges_applyAll operations layout) typable⟩

theorem outcome_execute_of_checkInput_eq_error {fault : Fault}
    (passed : (Cipher.validate cipher).outcome = .ok ())
    (refused : layout.checkInput input = .error fault) :
    (layout.execute cipher input).outcome = .error fault := by
  rw [Cipher.outcome_validate] at passed
  rw [outcome_execute, passed, refused]
  rfl

theorem Executes.outcome_eq {result : Except Fault String}
    (executes : layout.Executes cipher input result) :
    (layout.execute cipher input).outcome = result := by
  cases executes with
  | refusedCipher refused =>
      rw [Cipher.outcome_validate] at refused
      rw [outcome_execute, refused]
      rfl
  | emptyInput passed empty =>
      exact outcome_execute_of_checkInput_eq_error passed
        (checkInput_eq_error_iff.mpr (.inl ⟨empty, rfl⟩))
  | untypable passed here first =>
      exact outcome_execute_of_checkInput_eq_error passed
        (checkInput_eq_error_iff.mpr (.inr ⟨_, _, here, first, rfl⟩))
  | outOfRange passed nonempty typable unread =>
      rw [outcome_execute_of_accepted (checkInput_eq_ok_of_typable nonempty typable), unread]
      rfl
  | retyped nonempty typable transforms types =>
      obtain ⟨operations, parsed, rfl⟩ := Grid.outcome_transform_eq_ok_iff.mp transforms
      have rearranged := Operation.rearranges_applyAll operations layout
      rw [outcome_execute_of_ok parsed (checkInput_eq_ok_of_typable nonempty typable),
        ← retype_eq_map rearranged typable, types]

theorem executes_outcome_execute (layout : Layout) (cipher input : String) :
    layout.Executes cipher input (layout.execute cipher input).outcome := by
  cases passed : (Cipher.validate cipher).outcome with
  | error fault =>
      have executes : layout.Executes cipher input (.error fault) := .refusedCipher passed
      rwa [executes.outcome_eq]
  | ok _ =>
      cases accepted : layout.checkInput input with
      | error fault =>
          rw [outcome_execute_of_checkInput_eq_error passed accepted]
          obtain ⟨empty, rfl⟩ | ⟨i, c, here, first, rfl⟩ := checkInput_eq_error_iff.mp accepted
          · exact .emptyInput passed empty
          · exact .untypable passed here first
      | ok _ =>
          obtain ⟨nonempty, typable⟩ := checkInput_eq_ok_iff.mp accepted
          rw [ne_eq, String.toList_eq_nil_iff] at nonempty
          cases parsed : (Cipher.parse cipher).outcome with
          | error fault =>
              obtain ⟨position, rfl⟩ :=
                Cipher.exists_outOfRange_of_outcome_parse_eq_error passed parsed
              have executes := Executes.outOfRange passed nonempty typable parsed
              rwa [executes.outcome_eq]
          | ok operations =>
              obtain ⟨output, types⟩ := exists_retype_eq_ok operations typable
              have executes := Executes.retyped nonempty typable
                (Grid.outcome_transform_of_ok layout parsed) types
              rwa [executes.outcome_eq]

/-- An execution is decided by the first of its stages that fails, in the order cipher, input,
amounts.  With an accepted input only an amount is left to fail: a checked cipher that cannot be
read is refused for one, and no list of operations makes the retyping fail. -/
theorem outcome_execute_eq_iff_executes (layout : Layout) (cipher input : String) :
    (∀ result, (layout.execute cipher input).outcome = result ↔
      layout.Executes cipher input result) ∧
    (∀ fault, (Cipher.validate cipher).outcome = .ok () →
      (Cipher.parse cipher).outcome = .error fault →
      ∃ position, fault = .shiftAmountOutOfRange position) ∧
    ∀ operations, layout.checkInput input = .ok () →
      ∃ output, layout.retype (applyAll operations layout) input = .ok output := by
  refine ⟨fun result => ⟨?_, Executes.outcome_eq⟩, fun fault passed failed => ?_,
    fun operations accepted => ?_⟩
  · rintro rfl
    exact executes_outcome_execute layout cipher input
  · exact Cipher.exists_outOfRange_of_outcome_parse_eq_error passed failed
  · exact exists_retype_eq_ok operations (checkInput_eq_ok_iff.mp accepted).2

/-- An amount that is out of range is all that can keep a checked cipher from being read; it is
passed over while the input is empty, and reported once the input is accepted.  `HS2` retypes
`DOG`. -/
theorem outcome_execute_eq_iff_executes_qwerty :
    (∃ position, Fault.shiftAmountOutOfRange 1 = .shiftAmountOutOfRange position) ∧
      (qwerty.execute "S99999999999999999999" "").outcome = .error .emptyInput ∧
      (qwerty.execute "S99999999999999999999" "DOG").outcome =
        .error (.shiftAmountOutOfRange 1) ∧
      ∃ transformed output, (qwerty.transform "HS2").outcome = .ok transformed ∧
        qwerty.retype transformed "DOG" = .ok output ∧
        (qwerty.execute "HS2" "DOG").outcome = .ok output := by
  have passed : (Cipher.validate "S99999999999999999999").outcome = .ok () := by decide +kernel
  have unread : (Cipher.parse "S99999999999999999999").outcome =
      .error (.shiftAmountOutOfRange 1) := by decide +kernel
  have parsed : (Cipher.parse "HS2").outcome = .ok [.horizontalFlip, .rotate 2] := by
    decide +kernel
  have accepted : qwerty.checkInput "DOG" = .ok () := by decide +kernel
  have nonempty : "DOG" ≠ "" := by decide
  have typable := (checkInput_eq_ok_iff.mp accepted).2
  have transforms := Grid.outcome_transform_of_ok qwerty parsed
  obtain ⟨unfed, blames, _⟩ := outcome_execute_eq_iff_executes qwerty "S99999999999999999999" ""
  obtain ⟨fed, _, _⟩ := outcome_execute_eq_iff_executes qwerty "S99999999999999999999" "DOG"
  obtain ⟨encoded, _, finds⟩ := outcome_execute_eq_iff_executes qwerty "HS2" "DOG"
  obtain ⟨output, types⟩ := finds [.horizontalFlip, .rotate 2] accepted
  exact ⟨blames _ passed unread, (unfed _).mpr (.emptyInput passed rfl),
    (fed _).mpr (.outOfRange passed nonempty typable unread), _, output, transforms, types,
    (encoded _).mpr (.retyped nonempty typable transforms types)⟩

end Layout

end LayoutCipher
