import LayoutCipher.Proofs.Cipher.Reading
import LayoutCipher.Proofs.Layout.Retyping

/-!
# Executing ciphers

A cipher replaces the characters of every accepted input by one substitution of the layout.  The
checks in front decide whether there is an output at all; the retyping behind them cannot fail.
-/

namespace LayoutCipher.Layout

open Operation (applyAll)

/-! ## Retyping -/

theorem retype_eq_map {base other : Layout} (rearranged : base.Rearranges other)
    {input : String} (typable : ∀ c ∈ input.toList, c ∈ base.cells) :
    base.retype other input = .ok (input.map (substitution base other)) := by
  rw [retype_eq_ok_iff, String.toList_map, List.forall₂_map_right_iff, List.forall₂_same]
  intro c mem
  exact counterpart?_eq_some_iff.mp (counterpart?_eq_substitution rearranged (typable c mem))

/-- The inputs that are accepted are not empty and hold keys of the layout only. -/
theorem checkInput_eq_ok_iff {layout : Layout} {input : String} :
    layout.checkInput input = .ok () ↔
      input.toList ≠ [] ∧ ∀ c ∈ input.toList, c ∈ layout.cells := by
  unfold checkInput
  by_cases isEmpty : input.toList = []
  · simp [isEmpty]
  · have typable : input.toList.zipIdx.find? (fun entry => (layout.index.lookup entry.1).isNone) =
        none ↔ ∀ c ∈ input.toList, c ∈ layout.cells := by
      rw [Cipher.find?_zipIdx_eq_none_iff (p := fun c => (layout.index.lookup c).isNone)]
      simp only [← Bool.not_eq_true, Grid.isNone_lookup_index_iff, not_not]
    rw [if_neg isEmpty]
    simp only
    split
    · next found =>
        refine iff_of_false nofun ?_
        rintro ⟨_, all⟩
        cases found.symm.trans (typable.mpr all)
    · next found => exact iff_of_true rfl ⟨isEmpty, typable.mp found⟩

/-! ## Execution -/

/-- Retyping is done in stages, and the first that fails decides. -/
theorem outcome_execute (layout : Layout) (cipher input : String) :
    (layout.execute cipher input).outcome = (do
      Cipher.check cipher
      layout.checkInput input
      let operations ← Cipher.operations cipher
      layout.retype (applyAll operations layout) input) := by
  simp only [execute, Logged.outcome_bind, Cipher.outcome_validate, Logged.outcome_ofExcept,
    Cipher.outcome_parse, Operation.outcome_applyAllLogged, Logged.outcome_emit,
    Logged.outcome_pure]
  cases Cipher.check cipher with
  | error fault => rfl
  | ok _ =>
      cases layout.checkInput input with
      | error fault => rfl
      | ok _ =>
          cases Cipher.operations cipher with
          | error fault => rfl
          | ok operations =>
              cases read : layout.retype (applyAll operations layout) input <;>
                simp [bind, Except.bind, read]

/-- With a cipher that can be read exactly the accepted inputs have an output. -/
theorem outcome_execute_eq_ok_iff {layout : Layout} {cipher input output : String}
    {operations : List Operation} (parsed : (Cipher.parse cipher).outcome = .ok operations) :
    (layout.execute cipher input).outcome = .ok output ↔
      layout.checkInput input = .ok () ∧
        input.map (substitution layout (applyAll operations layout)) = output := by
  have checked := Cipher.check_of_outcome_parse_eq_ok parsed
  rw [Cipher.outcome_parse] at parsed
  rw [outcome_execute, checked, parsed]
  cases accepted : layout.checkInput input with
  | error fault => exact iff_of_false nofun nofun
  | ok _ =>
      have rearranged := Operation.rearranges_applyAll operations layout
      have retyped := retype_eq_map rearranged (checkInput_eq_ok_iff.mp accepted).2
      simp [bind, Except.bind, retyped]

theorem outcome_execute_of_ok {layout : Layout} {cipher input : String}
    {operations : List Operation} (parsed : (Cipher.parse cipher).outcome = .ok operations)
    (accepted : layout.checkInput input = .ok ()) :
    (layout.execute cipher input).outcome =
      .ok (input.map (substitution layout (applyAll operations layout))) :=
  (outcome_execute_eq_ok_iff parsed).mpr ⟨accepted, rfl⟩

/-- An input that is accepted leaves the outcome to the cipher. -/
theorem outcome_execute_of_accepted {layout : Layout} {input : String}
    (accepted : layout.checkInput input = .ok ()) (cipher : String) :
    (layout.execute cipher input).outcome =
      (Cipher.parse cipher).outcome.map fun operations =>
        input.map (substitution layout (Operation.applyAll operations layout)) := by
  cases parsed : (Cipher.parse cipher).outcome with
  | ok operations => exact outcome_execute_of_ok parsed accepted
  | error fault =>
      rw [outcome_execute]
      cases checked : Cipher.check cipher with
      | error earlier =>
          rw [Cipher.outcome_parse_of_error checked] at parsed
          cases parsed
          rfl
      | ok _ =>
          -- the cipher passes its check, so it is the reading of an amount that fails
          rw [Cipher.outcome_parse] at parsed
          rw [accepted, parsed]
          rfl

/-- A cipher that can be read is one permutation of the keys: it replaces the characters of every
input that can be typed.  So no two inputs have one output, outputs are as long as their inputs and
can be typed themselves, and inputs that follow each other are retyped one after the other. -/
theorem exists_bijOn_outcome_execute (layout : Layout) {cipher : String}
    {operations : List Operation} (parsed : (Cipher.parse cipher).outcome = .ok operations) :
    (∃ p : Char → Char, Set.BijOn p {c | c ∈ layout.cells} {c | c ∈ layout.cells} ∧
      ∀ input : String, input ≠ "" → (∀ c ∈ input.toList, c ∈ layout.cells) →
        ∃ output, (layout.execute cipher input).outcome = .ok output ∧
          output.toList = input.toList.map p ∧ output.length = input.length) ∧
    (∀ first second output, (layout.execute cipher first).outcome = .ok output →
      (layout.execute cipher second).outcome = .ok output → first = second) ∧
    (∀ input output, (layout.execute cipher input).outcome = .ok output →
      output.length = input.length ∧ ∀ c ∈ output.toList, c ∈ layout.cells) ∧
    ∀ first second output output', (layout.execute cipher first).outcome = .ok output →
      (layout.execute cipher second).outcome = .ok output' →
      (layout.execute cipher (first ++ second)).outcome = .ok (output ++ output') := by
  have rearranged := Operation.rearranges_applyAll operations layout
  simp only [outcome_execute_eq_ok_iff parsed, checkInput_eq_ok_iff, ne_eq,
    String.toList_eq_nil_iff]
  refine ⟨⟨_, bijOn_substitution rearranged, ?_⟩, ?_, ?_, ?_⟩
  · intro input nonempty typable
    exact ⟨_, ⟨⟨nonempty, typable⟩, rfl⟩, String.toList_map, String.length_map⟩
  · rintro first second _ ⟨⟨_, typable⟩, rfl⟩ ⟨⟨_, typable'⟩, same⟩
    exact map_substitution_injective rearranged typable typable' same.symm
  · rintro input _ ⟨⟨_, typable⟩, rfl⟩
    exact ⟨String.length_map, mem_cells_of_mem_map_substitution rearranged typable⟩
  · rintro first second _ _ ⟨⟨nonempty, typable⟩, rfl⟩ ⟨⟨_, typable'⟩, rfl⟩
    refine ⟨⟨by simp [nonempty], ?_⟩, ?_⟩
    · rw [String.toList_append]
      exact List.forall_mem_append.mpr ⟨typable, typable'⟩
    · apply String.toList_inj.mp
      simp only [String.toList_map, String.toList_append, List.map_append]

/-- Under `HVS12` the word `DOG` has an output of three characters, and `DOGDOG` has it twice. -/
theorem exists_bijOn_outcome_execute_qwerty :
    (Cipher.parse "HVS12").outcome = .ok [.horizontalFlip, .verticalFlip, .rotate 12] ∧
      ∃ output, (qwerty.execute "HVS12" "DOG").outcome = .ok output ∧ output.length = 3 ∧
        (qwerty.execute "HVS12" "DOGDOG").outcome = .ok (output ++ output) := by
  have parsed : (Cipher.parse "HVS12").outcome =
      .ok [.horizontalFlip, .verticalFlip, .rotate 12] := by decide +kernel
  have accepted : qwerty.checkInput "DOG" = .ok () := by decide +kernel
  obtain ⟨⟨p, _, typed⟩, _, _, follow⟩ := exists_bijOn_outcome_execute qwerty parsed
  obtain ⟨_, keys⟩ := checkInput_eq_ok_iff.mp accepted
  obtain ⟨output, done, _, length_eq⟩ := typed "DOG" (by decide) keys
  exact ⟨parsed, output, done, length_eq, follow "DOG" "DOG" output output done done⟩

end LayoutCipher.Layout
