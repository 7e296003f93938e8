import LayoutCipher.Command
import LayoutCipher.Proofs.Grid.Reachable
import LayoutCipher.Proofs.Operation.Encoding

/-!
# Outcomes of commands

A command finds a result first and puts it into words then.  `encoded` and `shown` are the results
of encodings and of layouts as sequences of their steps; the result of a validation is what reading
its cipher gives.  The format of a command matters only for the words.
-/

namespace LayoutCipher

/-! ## Results put into other words -/

theorem mapError_eq_ok_iff {ε δ α : Type} {f : ε → δ} {result : Except ε α} {a : α} :
    result.mapError f = .ok a ↔ result = .ok a := by
  cases result with
  | error error => exact iff_of_false nofun nofun
  | ok value =>
      constructor <;>
      · rintro ⟨⟩
        rfl

theorem mapError_eq_error_iff {ε δ α : Type} {f : ε → δ} {result : Except ε α} {error : δ} :
    result.mapError f = .error error ↔ ∃ earlier, result = .error earlier ∧ error = f earlier := by
  cases result with
  | error earlier =>
      constructor
      · rintro ⟨⟩
        exact ⟨earlier, rfl, rfl⟩
      · rintro ⟨_, ⟨⟩, rfl⟩
        rfl
  | ok value => exact iff_of_false nofun nofun

theorem map_eq_error_iff {ε α β : Type} {f : α → β} {result : Except ε α} {error : ε} :
    result.map f = .error error ↔ result = .error error := by
  cases result with
  | error earlier =>
      constructor <;>
      · rintro ⟨⟩
        rfl
  | ok value => exact iff_of_false nofun nofun

theorem exists_map_eq_ok_iff {ε α β : Type} {f : α → β} {result : Except ε α} :
    (∃ b, result.map f = .ok b) ↔ ∃ a, result = .ok a := by
  cases result with
  | error error => exact iff_of_false nofun nofun
  | ok value => exact iff_of_true ⟨f value, rfl⟩ ⟨value, rfl⟩

namespace Command

variable {settings : Settings} {layout : Layout}

/-- The text to print in a format. -/
def presented (format : OutputFormat) (text : String) (report : Json) : String :=
  match format with
  | .text => text
  | .json => report.pretty

/-! ## Validations -/

theorem outcome_runValidate (cipher : String) (format : OutputFormat) :
    (runValidate cipher format).outcome =
      ((Cipher.parse cipher).outcome.mapError Failure.ofFault).map fun operations =>
        presented format (operationsText cipher operations) (operationsJson cipher operations) := by
  rw [runValidate, Logged.outcome_bind, Logged.outcome_mapError]
  exact bind_pure_comp _ _

/-! ## Encodings -/

/-- The cipher of an encoding: the one that is given, or else the default one if it can be read. -/
def chosenCipher (settings : Settings) : Option String → Except Failure String
  | some cipher => .ok cipher
  | none =>
      ((Cipher.parse settings.cipherOrDefault).outcome.mapError
        (Settings.defaultCipherFailure settings.cipherOrDefault)).map
          fun _ => settings.cipherOrDefault

/-- The output of an encoding. -/
def encoded (settings : Settings) (input : String) (cipher : Option String) :
    Except Failure String := do
  let used ← chosenCipher settings cipher
  let layout ← settings.layout
  (layout.execute used input).outcome.mapError Failure.ofFault

theorem outcome_resolveDefaultCipher (settings : Settings) :
    settings.resolveDefaultCipher.outcome = chosenCipher settings none := by
  rw [Settings.resolveDefaultCipher, Logged.outcome_bind, Logged.outcome_mapError, chosenCipher]
  cases (Cipher.parse settings.cipherOrDefault).outcome <;> rfl

theorem eq_getD_of_chosenCipher_eq_ok {cipher : Option String} {used : String}
    (chosen : chosenCipher settings cipher = .ok used) :
    used = cipher.getD settings.cipherOrDefault := by
  cases cipher with
  | some cipher =>
      cases chosen
      rfl
  | none =>
      rw [chosenCipher] at chosen
      cases parsed : (Cipher.parse settings.cipherOrDefault).outcome with
      | error fault =>
          rw [parsed] at chosen
          cases chosen
      | ok operations =>
          rw [parsed] at chosen
          cases chosen
          rfl

theorem outcome_runEncode (settings : Settings) (input : String) (cipher : Option String)
    (format : OutputFormat) :
    (runEncode settings input cipher format).outcome =
      (encoded settings input cipher).map fun output => presented format output
        (encodingJson (cipher.getD settings.cipherOrDefault) input output) := by
  have steps : (runEncode settings input cipher format).outcome = (do
      let used ← chosenCipher settings cipher
      let layout ← settings.layout
      let output ← (layout.execute used input).outcome.mapError Failure.ofFault
      return presented format output (encodingJson used input output)) := by
    unfold runEncode
    cases cipher <;>
    · simp only [Logged.outcome_bind, Logged.outcome_pure, Logged.outcome_ofExcept,
        Logged.outcome_emit, Logged.outcome_mapError, outcome_resolveDefaultCipher]
      rfl
  rw [steps, encoded]
  cases chosen : chosenCipher settings cipher with
  | error failure => rfl
  | ok used =>
      rw [← eq_getD_of_chosenCipher_eq_ok chosen]
      cases settings.layout with
      | error failure => rfl
      | ok layout => exact bind_pure_comp (m := Except Failure) _ _

theorem outcome_runEncode_of_ok (built : settings.layout = .ok layout) (cipher input : String)
    (format : OutputFormat) :
    (runEncode settings input (some cipher) format).outcome =
      ((layout.execute cipher input).outcome.mapError Failure.ofFault).map fun output =>
        presented format output (encodingJson cipher input output) := by
  rw [outcome_runEncode, encoded, built]
  rfl

/-! ## Layouts -/

/-- The layout to show: the one that a cipher makes, or the layout as it is. -/
def shown (settings : Settings) (cipher : Option String) : Except Failure Layout := do
  let base ← settings.layout
  match cipher with
  | some cipher => (base.transform cipher).outcome.mapError Failure.ofFault
  | none => return base

theorem outcome_runLayout (settings : Settings) (cipher : Option String) (format : OutputFormat) :
    (runLayout settings cipher format).outcome =
      (shown settings cipher).map fun layout =>
        presented format (Layout.display layout) (layoutJson cipher layout) := by
  rw [runLayout, shown, Logged.outcome_bind, Logged.outcome_ofExcept]
  cases settings.layout with
  | error failure => rfl
  | ok base =>
      cases cipher with
      | none => rfl
      | some cipher =>
          exact (Logged.outcome_bind _ _).trans (bind_pure_comp _ _)

theorem outcome_runLayout_of_ok (built : settings.layout = .ok layout) (cipher : String)
    (format : OutputFormat) :
    (runLayout settings (some cipher) format).outcome =
      ((layout.transform cipher).outcome.mapError Failure.ofFault).map fun transformed =>
        presented format (Layout.display transformed) (layoutJson (some cipher) transformed) := by
  rw [outcome_runLayout, shown, built]
  rfl

/-! ## Reports -/

theorem integral_encodingJson (cipher input output : String) :
    Json.Integral (encodingJson cipher input output) :=
  .object (by simpa using ⟨.string _, .string _, .string _⟩)

theorem integral_operationsJson (cipher : String) (operations : List Operation) :
    Json.Integral (operationsJson cipher operations) := by
  have listed : Json.Integral (.array (operations.map Operation.toJson)) := by
    refine .array fun element mem => ?_
    obtain ⟨operation, _, rfl⟩ := List.mem_map.mp mem
    exact operation.integral_toJson
  exact .object (by simpa using ⟨.string _, listed⟩)

theorem integral_layoutJson (cipher : Option String) (layout : Layout) :
    Json.Integral (layoutJson cipher layout) := by
  have rows : Json.Integral (Layout.toJson layout) := by
    refine .array fun element mem => ?_
    obtain ⟨row, _, rfl⟩ := List.mem_map.mp mem
    exact .string row
  have given : Json.Integral (cipher.elim .null .string) := by
    cases cipher with
    | none => exact .null
    | some cipher => exact .string cipher
  exact .object (by simpa using ⟨given, rows⟩)

end Command

end LayoutCipher
