import LayoutCipher.Proofs.Command.Outcomes
import LayoutCipher.Proofs.Layout.Execution

/-!
# Commands agree on ciphers

Three commands read a cipher, each in a way of its own: an encoding checks it, then the input, and
only then reads its amounts; a validation and a layout read it in one go.  With an input that can
be typed they succeed on the same ciphers and fail with the same failure.
-/

namespace LayoutCipher

namespace Command

section

variable {settings : Settings} {layout : Layout}

/-- On an input that can be typed, a validation, a layout and an encoding succeed with the same
ciphers, and with every other cipher all of them fail with one failure, whatever their formats.
Where they succeed, the text of the encoding is the input as it is typed on the layout and read on
the grid that the rows of the layout's report make. -/
theorem outcomes_agree (built : settings.layout = .ok layout) (cipher : String) {input : String}
    (nonempty : input ≠ "") (typable : ∀ c ∈ input.toList, c ∈ layout.cells) :
    (∀ first second third : OutputFormat,
      (∃ failure,
        (runValidate cipher first).outcome = .error failure ∧
        (runLayout settings (some cipher) second).outcome = .error failure ∧
        (runEncode settings input (some cipher) third).outcome = .error failure) ∨
      ∃ operations rows output,
        (runValidate cipher first).outcome = .ok operations ∧
        (runLayout settings (some cipher) second).outcome = .ok rows ∧
        (runEncode settings input (some cipher) third).outcome = .ok output) ∧
    ∀ output report,
      (runEncode settings input (some cipher) .text).outcome = .ok output →
      (runLayout settings (some cipher) .json).outcome = .ok report →
      ∃ rows transformed,
        Json.read? report = some
          (.object [("cipher", .string cipher), ("rows", .array (rows.map .string))]) ∧
        Layout.ofStrings rows = .ok transformed ∧
        layout.retype transformed input = .ok output := by
  have accepted : layout.checkInput input = .ok () :=
    Layout.checkInput_eq_ok_iff.mpr ⟨fun empty => nonempty (String.toList_eq_nil_iff.mp empty),
      typable⟩
  -- all three outcomes are now functions of the outcome of reading the cipher
  simp only [outcome_runValidate, outcome_runLayout_of_ok built, outcome_runEncode_of_ok built,
    Grid.outcome_transform, Layout.outcome_execute_of_accepted accepted]
  cases (Cipher.parse cipher).outcome with
  | error fault =>
      refine ⟨fun _ _ _ => .inl ⟨Failure.ofFault fault, rfl, rfl, rfl⟩, ?_⟩
      intro output report encoded
      cases encoded
  | ok operations =>
      refine ⟨fun _ _ _ => .inr ⟨_, _, _, rfl, rfl, rfl⟩, ?_⟩
      -- the rows of the report are those of the transformed layout, which they build again
      intro output report encoded shown
      cases encoded
      cases shown
      have rearranged := Operation.rearranges_applyAll operations layout
      exact ⟨_, _, Json.read?_pretty (integral_layoutJson _ _), Layout.ofStrings_rowStrings _,
        Layout.retype_eq_map rearranged typable⟩

end

/-- With the settings left open, `HVS` fails for its shift operator without an amount, also as the
cipher of a layout or of an encoding, and `HS2` retypes `DOG` on the rows that its layout shows. -/
theorem outcomes_agree_qwerty :
    Settings.unset.layout = .ok Layout.qwerty ∧ "DOG" ≠ "" ∧
      (∀ c ∈ "DOG".toList, c ∈ Layout.qwerty.cells) ∧
      (runLayout .unset (some "HVS") .json).outcome =
        .error (Failure.ofFault (.danglingShiftOperator 2)) ∧
      (runEncode .unset "DOG" (some "HVS") .text).outcome =
        .error (Failure.ofFault (.danglingShiftOperator 2)) ∧
      ∃ output rows transformed,
        (runEncode .unset "DOG" (some "HS2") .text).outcome = .ok output ∧
        Layout.ofStrings rows = .ok transformed ∧
        Layout.qwerty.retype transformed "DOG" = .ok output := by
  have built : Settings.unset.layout = .ok Layout.qwerty := rfl
  have accepted : Layout.qwerty.checkInput "DOG" = .ok () := by decide +kernel
  have nonempty : "DOG" ≠ "" := by decide
  have typable := (Layout.checkInput_eq_ok_iff.mp accepted).2
  have refused : (Cipher.parse "HVS").outcome = .error (.danglingShiftOperator 2) := by
    decide +kernel
  have parsed : (Cipher.parse "HS2").outcome = .ok [.horizontalFlip, .rotate 2] := by
    decide +kernel
  have invalid : (runValidate "HVS" .text).outcome =
      .error (Failure.ofFault (.danglingShiftOperator 2)) := by
    rw [outcome_runValidate, refused]
    rfl
  have valid : (runValidate "HS2" .text).outcome =
      .ok (operationsText "HS2" [.horizontalFlip, .rotate 2]) := by
    rw [outcome_runValidate, parsed]
    rfl
  obtain ⟨failing, _⟩ := outcomes_agree built "HVS" nonempty typable
  obtain ⟨failure, validated, shown, encoded⟩ := (failing .text .json .text).resolve_right (by
    rintro ⟨_, _, _, validated, _⟩
    cases validated.symm.trans invalid)
  cases validated.symm.trans invalid
  obtain ⟨succeeding, retyped⟩ := outcomes_agree built "HS2" nonempty typable
  obtain ⟨_, report, output, _, shows, encodes⟩ := (succeeding .text .json .text).resolve_left (by
    rintro ⟨_, validated, _⟩
    cases validated.symm.trans valid)
  obtain ⟨rows, transformed, _, rebuilt, typed⟩ := retyped output report encodes shows
  exact ⟨built, nonempty, typable, shown, encoded, output, rows, transformed, encodes, rebuilt,
    typed⟩

end Command

end LayoutCipher
