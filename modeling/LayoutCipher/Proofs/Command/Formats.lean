import LayoutCipher.Proofs.Command.Outcomes

/-!
# Text and JSON

A command has one result and two ways to present it.  Either way it fails with the same failure.
Where it succeeds, the JSON report reads back as an object that tells no more and no less than the
text: what the command was given, and a faithful copy of its result.
-/

namespace LayoutCipher.Command

/-- Two outcomes present one result: both are the same failure, or the second is a report whose
value tells what the first says. -/
inductive Presents (tells : String → Json → Prop) :
    Except Failure String → Except Failure String → Prop where
  | failed (failure : Failure) : Presents tells (.error failure) (.error failure)
  | succeeded {text report : String} {value : Json} (read : Json.read? report = some value)
      (told : tells text value) : Presents tells (.ok text) (.ok report)

theorem presents_map {α : Type} {tells : String → Json → Prop} {result : Except Failure α}
    {text : α → String} {report : α → Json} (integral : ∀ a, Json.Integral (report a))
    (told : ∀ a, result = .ok a → tells (text a) (report a)) :
    Presents tells (result.map fun a => presented .text (text a) (report a))
      (result.map fun a => presented .json (text a) (report a)) := by
  cases result with
  | error failure => exact .failed failure
  | ok a => exact .succeeded (Json.read?_pretty (integral a)) (told a rfl)

/-- The formats of a command differ in the words only.  In either format an encoding, a validation
or a layout fails with one failure; where it succeeds, the report is an object with fixed members:
of an encoding the cipher that was used, the input and the text; of a validation the cipher and the
operations that it stands for; of a layout the cipher, if one was given, and the rows of the grid
that the text shows. -/
theorem presents_run (settings : Settings) :
    (∀ input cipher, Presents
      (fun text value => value = .object
        [("cipher", .string (cipher.getD settings.cipherOrDefault)), ("input", .string input),
          ("output", .string text)])
      (run settings (some (.encode input cipher .text))).outcome
      (run settings (some (.encode input cipher .json))).outcome) ∧
    (∀ cipher, Presents
      (fun text value => ∃ elements operations,
        value = .object [("cipher", .string cipher), ("operations", .array elements)] ∧
        elements.mapM Operation.ofJson? = some operations ∧
        (Cipher.parse cipher).outcome = .ok operations ∧
        text = operationsText cipher operations)
      (run settings (some (.validate cipher .text))).outcome
      (run settings (some (.validate cipher .json))).outcome) ∧
    ∀ cipher, Presents
      (fun text value => ∃ rows layout, value = .object
          [("cipher", cipher.elim .null .string), ("rows", .array (rows.map .string))] ∧
        Layout.ofStrings rows = .ok layout ∧ text = layout.display)
      (run settings (some (.layout cipher .text))).outcome
      (run settings (some (.layout cipher .json))).outcome := by
  refine ⟨fun input cipher => ?_, fun cipher => ?_, fun cipher => ?_⟩
  · simp only [run, outcome_runEncode]
    exact presents_map (integral_encodingJson _ input) fun _ _ => rfl
  · simp only [run, outcome_runValidate]
    exact presents_map (integral_operationsJson cipher) fun operations read =>
      ⟨_, operations, rfl, Operation.mapM_ofJson?_map_toJson operations,
        mapError_eq_ok_iff.mp read, rfl⟩
  · simp only [run, outcome_runLayout]
    exact presents_map (integral_layoutJson cipher) fun layout _ =>
      ⟨_, layout, rfl, Layout.ofStrings_rowStrings layout, rfl⟩

end LayoutCipher.Command
