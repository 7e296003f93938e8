import LayoutCipher.Failure.Report
import LayoutCipher.Proofs.Command.Outcomes
import LayoutCipher.Proofs.Layout.Stages

/-!
# Exit statuses of commands

The status that a command ends with tells what was wrong: 2 the default cipher, 3 the layout, 8 the
cipher or the input that was given.  `EncodingEnds` and `ShowingEnds` list how an encoding and a
layout can end; which conditions decide the status (`DecidedBy`) and what a failure is due to
(`Cause`) follow case by case.  A default cipher is read twice, once before the layout is built and
once by the execution, so the second reading cannot fail and only the input is left to blame.
-/

namespace LayoutCipher

/-! ## Registered numbers -/

namespace Failure

theorem describeCode_code_ne (fault : Fault) : describeCode fault.code ≠ "Unknown error code" := by
  cases fault <;> simp [describeCode, Fault.code]

theorem describeCode_1003_ne : describeCode 1003 ≠ "Unknown error code" := by
  simp [describeCode]

theorem describeCode_codeOfDefect_ne (defect : Grid.Defect) :
    describeCode (codeOfDefect defect) ≠ "Unknown error code" := by
  cases defect <;> simp [describeCode, codeOfDefect]

theorem codeOfDefect_cases (defect : Grid.Defect) :
    codeOfDefect defect = 3001 ∧ (defect = .empty ∨ ∃ row, defect = .emptyRow row) ∨
      codeOfDefect defect = 3002 ∧ (∃ row expected found, defect = .ragged row expected found) ∨
      codeOfDefect defect = 3003 ∧ ∃ row column, defect = .duplicateCell row column := by
  cases defect <;> simp [codeOfDefect]

end Failure

variable {settings : Settings} {input : String} {cipher : Option String} {layout : Layout}

/-! ## Layouts -/

/-- The rows that are configured make no layout, for a defect. -/
def Settings.Rejects (settings : Settings) (defect : Grid.Defect) : Prop :=
  ∃ rows, settings.layoutRows = some rows ∧ Layout.ofStrings rows = .error defect

theorem Settings.layout_eq_error_iff {failure : Failure} : settings.layout = .error failure ↔
    ∃ defect, settings.Rejects defect ∧ failure = .ofDefect defect := by
  unfold Settings.layout Settings.Rejects
  cases settings.layoutRows with
  | none => simp
  | some rows => simp [mapError_eq_error_iff]

theorem Settings.Rejects.layout_eq {defect : Grid.Defect} (rejects : settings.Rejects defect) :
    settings.layout = .error (.ofDefect defect) :=
  Settings.layout_eq_error_iff.mpr ⟨defect, rejects, rfl⟩

theorem Settings.not_rejects (built : settings.layout = .ok layout) :
    ¬ ∃ defect, settings.Rejects defect := by
  rintro ⟨defect, rejects⟩
  cases built.symm.trans rejects.layout_eq

namespace Command

/-! ## Statuses -/

/-- The exit status of a program that ends with an outcome. -/
def exitStatus {α : Type} : Except Failure α → Nat
  | .ok _ => 0
  | .error failure => (Report.ofFailure failure).exitStatus

@[simp]
theorem exitStatus_ok {α : Type} (a : α) : exitStatus (.ok a : Except Failure α) = 0 :=
  rfl

@[simp]
theorem exitStatus_defaultCipherFailure {α : Type} (cipher : String) (fault : Fault) :
    exitStatus (.error (Settings.defaultCipherFailure cipher fault) : Except Failure α) = 2 :=
  rfl

@[simp]
theorem exitStatus_ofDefect {α : Type} (defect : Grid.Defect) :
    exitStatus (.error (.ofDefect defect) : Except Failure α) = 3 :=
  rfl

@[simp]
theorem exitStatus_ofFault {α : Type} (fault : Fault) :
    exitStatus (.error (.ofFault fault) : Except Failure α) = 8 :=
  rfl

theorem exitStatus_map {α β : Type} (f : α → β) (result : Except Failure α) :
    exitStatus (result.map f) = exitStatus result := by
  cases result <;> rfl

/-- Three conditions decide how an outcome ends, the first that holds its exit status: 2 for an
unreadable default cipher, 3 for a rejected layout, 8 for a refused request.  If none holds, it is a
success. -/
structure DecidedBy {α : Type} (unreadable rejected refused : Prop) (outcome : Except Failure α) :
    Prop where
  two : exitStatus outcome = 2 ↔ unreadable
  three : exitStatus outcome = 3 ↔ ¬ unreadable ∧ rejected
  eight : exitStatus outcome = 8 ↔ ¬ unreadable ∧ ¬ rejected ∧ refused
  success : (∃ a, outcome = .ok a) ↔ ¬ unreadable ∧ ¬ rejected ∧ ¬ refused

section

variable {α : Type} {unreadable rejected refused : Prop} {failure : Failure}

theorem DecidedBy.of_unreadable (holds : unreadable)
    (status : exitStatus (.error failure : Except Failure α) = 2) :
    DecidedBy unreadable rejected refused (.error failure : Except Failure α) where
  two := iff_of_true status holds
  three := by simp [status, holds]
  eight := by simp [status, holds]
  success := by simp [holds]

theorem DecidedBy.of_rejected (readable : ¬ unreadable) (holds : rejected)
    (status : exitStatus (.error failure : Except Failure α) = 3) :
    DecidedBy unreadable rejected refused (.error failure : Except Failure α) where
  two := by simp [status, readable]
  three := iff_of_true status ⟨readable, holds⟩
  eight := by simp [status, holds]
  success := by simp [holds]

theorem DecidedBy.of_refused (readable : ¬ unreadable) (accepted : ¬ rejected) (holds : refused)
    (status : exitStatus (.error failure : Except Failure α) = 8) :
    DecidedBy unreadable rejected refused (.error failure : Except Failure α) where
  two := by simp [status, readable]
  three := by simp [status, accepted]
  eight := iff_of_true status ⟨readable, accepted, holds⟩
  success := by simp [holds]

theorem DecidedBy.of_ok (readable : ¬ unreadable) (accepted : ¬ rejected) (granted : ¬ refused)
    (a : α) : DecidedBy unreadable rejected refused (.ok a) where
  two := by simp [readable]
  three := by simp [accepted]
  eight := by simp [granted]
  success := iff_of_true ⟨a, rfl⟩ ⟨readable, accepted, granted⟩

theorem DecidedBy.map {β : Type} {outcome : Except Failure α}
    (decided : DecidedBy unreadable rejected refused outcome) (f : α → β) :
    DecidedBy unreadable rejected refused (outcome.map f) where
  two := by rw [exitStatus_map, decided.two]
  three := by rw [exitStatus_map, decided.three]
  eight := by rw [exitStatus_map, decided.eight]
  success := by rw [exists_map_eq_ok_iff, decided.success]

end

/-- The cipher that a command is given. -/
def givenCipher? : Option Command → Option String
  | some (.encode _ cipher _) => cipher
  | some (.validate cipher _) => some cipher
  | some (.layout cipher _) => cipher
  | none => none

/-! ## Endings -/

/-- No cipher is given, and the default one cannot be read. -/
def DefaultUnreadable (settings : Settings) (cipher : Option String) : Prop :=
  cipher = none ∧ ∃ fault, (Cipher.parse settings.cipherOrDefault).outcome = .error fault

/-- How an encoding ends: the default cipher fails first, then the layout, then the execution. -/
inductive EncodingEnds (settings : Settings) (input : String) (cipher : Option String) :
    Except Failure String → Prop where
  | unreadableDefault {fault : Fault} (absent : cipher = none)
      (unreadable : (Cipher.parse settings.cipherOrDefault).outcome = .error fault) :
      EncodingEnds settings input cipher
        (.error (Settings.defaultCipherFailure settings.cipherOrDefault fault))
  | rejectedLayout {defect : Grid.Defect} (usable : ¬ DefaultUnreadable settings cipher)
      (rejects : settings.Rejects defect) :
      EncodingEnds settings input cipher (.error (.ofDefect defect))
  | refused {layout : Layout} {fault : Fault} (usable : ¬ DefaultUnreadable settings cipher)
      (built : settings.layout = .ok layout)
      (failed : (layout.execute (cipher.getD settings.cipherOrDefault) input).outcome =
        .error fault) : EncodingEnds settings input cipher (.error (.ofFault fault))
  | encoded {layout : Layout} {output : String} (usable : ¬ DefaultUnreadable settings cipher)
      (built : settings.layout = .ok layout)
      (done : (layout.execute (cipher.getD settings.cipherOrDefault) input).outcome = .ok output) :
      EncodingEnds settings input cipher (.ok output)

/-- How a layout ends: the layout fails first, then the cipher. -/
inductive ShowingEnds (settings : Settings) (cipher : Option String) :
    Except Failure Layout → Prop where
  | rejectedLayout {defect : Grid.Defect} (rejects : settings.Rejects defect) :
      ShowingEnds settings cipher (.error (.ofDefect defect))
  | unreadable {layout : Layout} {given : String} {fault : Fault}
      (built : settings.layout = .ok layout) (present : cipher = some given)
      (unread : (Cipher.parse given).outcome = .error fault) :
      ShowingEnds settings cipher (.error (.ofFault fault))
  | shown {base layout : Layout} (built : settings.layout = .ok base)
      (readable : ∀ given, cipher = some given →
        ∃ operations, (Cipher.parse given).outcome = .ok operations) :
      ShowingEnds settings cipher (.ok layout)

theorem chosenCipher_eq_error_iff {failure : Failure} :
    chosenCipher settings cipher = .error failure ↔ cipher = none ∧ ∃ fault,
      (Cipher.parse settings.cipherOrDefault).outcome = .error fault ∧
        failure = Settings.defaultCipherFailure settings.cipherOrDefault fault := by
  cases cipher with
  | some cipher => exact iff_of_false nofun nofun
  | none => rw [chosenCipher, map_eq_error_iff, mapError_eq_error_iff, eq_self, true_and]

theorem usable_of_chosenCipher_eq_ok {used : String}
    (chosen : chosenCipher settings cipher = .ok used) : ¬ DefaultUnreadable settings cipher := by
  rintro ⟨absent, fault, unreadable⟩
  have failed := chosenCipher_eq_error_iff.mpr ⟨absent, fault, unreadable, rfl⟩
  cases chosen.symm.trans failed

theorem encodingEnds_encoded (settings : Settings) (input : String) (cipher : Option String) :
    EncodingEnds settings input cipher (encoded settings input cipher) := by
  rw [encoded]
  cases chosen : chosenCipher settings cipher with
  | error failure =>
      obtain ⟨absent, fault, unreadable, rfl⟩ := chosenCipher_eq_error_iff.mp chosen
      exact .unreadableDefault absent unreadable
  | ok used =>
      have usable := usable_of_chosenCipher_eq_ok chosen
      obtain rfl := eq_getD_of_chosenCipher_eq_ok chosen
      cases built : settings.layout with
      | error failure =>
          obtain ⟨defect, rejects, rfl⟩ := Settings.layout_eq_error_iff.mp built
          exact .rejectedLayout usable rejects
      | ok layout =>
          change EncodingEnds settings input cipher
            ((layout.execute (cipher.getD settings.cipherOrDefault) input).outcome.mapError _)
          cases done : (layout.execute (cipher.getD settings.cipherOrDefault) input).outcome with
          | error fault => exact .refused usable built done
          | ok output => exact .encoded usable built done

theorem showingEnds_shown (settings : Settings) (cipher : Option String) :
    ShowingEnds settings cipher (shown settings cipher) := by
  rw [shown]
  cases built : settings.layout with
  | error failure =>
      obtain ⟨defect, rejects, rfl⟩ := Settings.layout_eq_error_iff.mp built
      exact .rejectedLayout rejects
  | ok base =>
      cases cipher with
      | none =>
          refine .shown built ?_
          rintro _ ⟨⟩
      | some given =>
          change ShowingEnds settings (some given) ((base.transform given).outcome.mapError _)
          rw [Grid.outcome_transform]
          cases parsed : (Cipher.parse given).outcome with
          | error fault => exact .unreadable built rfl parsed
          | ok operations =>
              refine .shown built ?_
              rintro _ ⟨⟩
              exact ⟨operations, parsed⟩

theorem EncodingEnds.decidedBy {result : Except Failure String}
    (ends : EncodingEnds settings input cipher result) :
    DecidedBy (DefaultUnreadable settings cipher) (∃ defect, settings.Rejects defect)
      (∃ layout fault, settings.layout = .ok layout ∧
        (layout.execute (cipher.getD settings.cipherOrDefault) input).outcome = .error fault)
      result := by
  cases ends with
  | unreadableDefault absent unreadable =>
      exact .of_unreadable ⟨absent, _, unreadable⟩ (exitStatus_defaultCipherFailure _ _)
  | rejectedLayout usable rejects =>
      exact .of_rejected usable ⟨_, rejects⟩ (exitStatus_ofDefect _)
  | refused usable built failed =>
      exact .of_refused usable (Settings.not_rejects built)
        ⟨_, _, built, failed⟩ (exitStatus_ofFault _)
  | encoded usable built done =>
      refine .of_ok usable (Settings.not_rejects built) ?_ _
      simp [built, done]

theorem ShowingEnds.decidedBy {result : Except Failure Layout}
    (ends : ShowingEnds settings cipher result) :
    DecidedBy False (∃ defect, settings.Rejects defect)
      (∃ given fault, cipher = some given ∧ (Cipher.parse given).outcome = .error fault)
      result := by
  cases ends with
  | rejectedLayout rejects =>
      exact .of_rejected not_false ⟨_, rejects⟩ (exitStatus_ofDefect _)
  | unreadable built present unread =>
      exact .of_refused not_false (Settings.not_rejects built)
        ⟨_, _, present, unread⟩ (exitStatus_ofFault _)
  | shown built readable =>
      refine .of_ok not_false (Settings.not_rejects built) ?_ _
      rintro ⟨given, fault, present, unread⟩
      obtain ⟨operations, parsed⟩ := readable given present
      cases unread.symm.trans parsed

theorem decidedBy_outcome_runValidate (cipher : String) (format : OutputFormat) :
    DecidedBy False False (∃ fault, (Cipher.parse cipher).outcome = .error fault)
      (runValidate cipher format).outcome := by
  rw [outcome_runValidate]
  cases parsed : (Cipher.parse cipher).outcome with
  | error fault => exact .of_refused not_false not_false ⟨fault, rfl⟩ (exitStatus_ofFault _)
  | ok operations => exact .of_ok not_false not_false (by simp) _

/-! ## Causes -/

/-- What a failure of a command is due to.  A cipher is at fault only if one was given; without one
it is the input. -/
inductive Cause (settings : Settings) (given : Option String) : Failure → Prop where
  | defaultCipher (fault : Fault) :
      Cause settings given (Settings.defaultCipherFailure settings.cipherOrDefault fault)
  | layout {defect : Grid.Defect} (rejects : settings.Rejects defect) :
      Cause settings given (.ofDefect defect)
  | request {fault : Fault} (input : given = none → fault.code = 7007 ∨ fault.code = 7008) :
      Cause settings given (.ofFault fault)

theorem code_of_outcome_execute_eq_error {cipher : String} {operations : List Operation}
    {fault : Fault} (parsed : (Cipher.parse cipher).outcome = .ok operations)
    (failed : (layout.execute cipher input).outcome = .error fault) :
    fault.code = 7007 ∨ fault.code = 7008 := by
  have executes := Layout.executes_outcome_execute layout cipher input
  rw [failed] at executes
  cases executes with
  | refusedCipher refused =>
      rw [Cipher.outcome_validate, Cipher.check_of_outcome_parse_eq_ok parsed] at refused
      cases refused
  | emptyInput => exact .inl rfl
  | untypable => exact .inr rfl
  | outOfRange _ _ _ unread => cases parsed.symm.trans unread

theorem EncodingEnds.cause {failure : Failure}
    (ends : EncodingEnds settings input cipher (.error failure)) :
    Cause settings cipher failure := by
  cases ends with
  | unreadableDefault => exact .defaultCipher _
  | rejectedLayout _ rejects => exact .layout rejects
  | refused usable _ failed =>
      refine .request ?_
      rintro rfl
      cases parsed : (Cipher.parse settings.cipherOrDefault).outcome with
      | error fault => exact absurd ⟨rfl, fault, parsed⟩ usable
      | ok operations => exact code_of_outcome_execute_eq_error parsed failed

theorem ShowingEnds.cause {failure : Failure}
    (ends : ShowingEnds settings cipher (.error failure)) : Cause settings cipher failure := by
  cases ends with
  | rejectedLayout rejects => exact .layout rejects
  | unreadable _ present _ => exact .request (by simp [present])

theorem cause_of_outcome_runEncode_eq_error (input : String) (cipher : Option String)
    (format : OutputFormat) {failure : Failure}
    (failed : (runEncode settings input cipher format).outcome = .error failure) :
    Cause settings cipher failure := by
  rw [outcome_runEncode, map_eq_error_iff] at failed
  have ends := encodingEnds_encoded settings input cipher
  rw [failed] at ends
  exact ends.cause

theorem cause_of_outcome_runValidate_eq_error (cipher : String) (format : OutputFormat)
    {failure : Failure} (failed : (runValidate cipher format).outcome = .error failure) :
    Cause settings (some cipher) failure := by
  rw [outcome_runValidate, map_eq_error_iff, mapError_eq_error_iff] at failed
  obtain ⟨fault, _, rfl⟩ := failed
  exact .request nofun

theorem cause_of_outcome_runLayout_eq_error (cipher : Option String) (format : OutputFormat)
    {failure : Failure} (failed : (runLayout settings cipher format).outcome = .error failure) :
    Cause settings cipher failure := by
  rw [outcome_runLayout, map_eq_error_iff] at failed
  have ends := showingEnds_shown settings cipher
  rw [failed] at ends
  exact ends.cause

theorem cause_of_outcome_run_eq_error {command : Option Command} {failure : Failure}
    (failed : (run settings command).outcome = .error failure) :
    Cause settings (givenCipher? command) failure := by
  cases command with
  | none => exact cause_of_outcome_runEncode_eq_error "DOG" none .text failed
  | some command =>
      cases command with
      | encode input cipher format =>
          exact cause_of_outcome_runEncode_eq_error input cipher format failed
      | validate cipher format => exact cause_of_outcome_runValidate_eq_error cipher format failed
      | layout cipher format => exact cause_of_outcome_runLayout_eq_error cipher format failed

/-- The exit status of a command.  For an encoding the default cipher counts, unless a cipher was
given, then the layout, then the execution; for a layout first the layout and then the cipher; for a
validation the cipher alone.  No command is an encoding of `DOG`.  A failure has no other status
than 2, 3 and 8, and its number is registered: 1003 with status 2, the one of the defect with
status 3; and with status 8 a number of the input, unless a cipher was given. -/
theorem exitStatus_run (settings : Settings) :
    (∀ input cipher format, DecidedBy (DefaultUnreadable settings cipher)
      (∃ defect, settings.Rejects defect)
      (∃ layout fault, settings.layout = .ok layout ∧
        (layout.execute (cipher.getD settings.cipherOrDefault) input).outcome = .error fault)
      (run settings (some (.encode input cipher format))).outcome) ∧
    (∀ cipher format, DecidedBy False (∃ defect, settings.Rejects defect)
      (∃ given fault, cipher = some given ∧ (Cipher.parse given).outcome = .error fault)
      (run settings (some (.layout cipher format))).outcome) ∧
    (∀ cipher format, DecidedBy False False
      (∃ fault, (Cipher.parse cipher).outcome = .error fault)
      (run settings (some (.validate cipher format))).outcome) ∧
    run settings none = run settings (some (.encode "DOG" none .text)) ∧
    ∀ command failure, (run settings command).outcome = .error failure →
      Failure.describeCode failure.code ≠ "Unknown error code" ∧
      (exitStatus (run settings command).outcome = 2 ∧ failure.code = 1003 ∨
        exitStatus (run settings command).outcome = 3 ∧ (∃ defect, settings.Rejects defect ∧
          (failure.code = 3001 ∧ (defect = .empty ∨ ∃ row, defect = .emptyRow row) ∨
            failure.code = 3002 ∧ (∃ row expected found, defect = .ragged row expected found) ∨
            failure.code = 3003 ∧ ∃ row column, defect = .duplicateCell row column)) ∨
        exitStatus (run settings command).outcome = 8 ∧
          (givenCipher? command = none → failure.code = 7007 ∨ failure.code = 7008)) := by
  refine ⟨fun input cipher format => ?_, fun cipher format => ?_, decidedBy_outcome_runValidate,
    rfl, fun command failure failed => ?_⟩
  · have ends := encodingEnds_encoded settings input cipher
    rw [run, outcome_runEncode]
    exact ends.decidedBy.map _
  · have ends := showingEnds_shown settings cipher
    rw [run, outcome_runLayout]
    exact ends.decidedBy.map _
  · rw [failed]
    cases cause_of_outcome_run_eq_error failed with
    | defaultCipher fault =>
        exact ⟨Failure.describeCode_1003_ne, .inl ⟨exitStatus_defaultCipherFailure _ _, rfl⟩⟩
    | layout rejects =>
        exact ⟨Failure.describeCode_codeOfDefect_ne _,
          .inr (.inl ⟨exitStatus_ofDefect _, _, rejects, Failure.codeOfDefect_cases _⟩)⟩
    | request input =>
        exact ⟨Failure.describeCode_code_ne _, .inr (.inr ⟨exitStatus_ofFault _, input⟩)⟩

/-- A default cipher that cannot be read comes before a layout that is rejected, and is passed over
by a layout; the default cipher `S1` leaves only the input to blame. -/
theorem exitStatus_run_sample :
    exitStatus (run ⟨none, some "S", some ["AB", "BA"]⟩ none).outcome = 2 ∧
      exitStatus (run ⟨none, some "S", some ["AB", "BA"]⟩ (some (.layout none .json))).outcome = 3 ∧
      exitStatus (run .unset (some (.encode "" none .json))).outcome = 8 ∧
      (run .unset (some (.encode "" none .json))).outcome = .error (.ofFault .emptyInput) ∧
      ((Failure.ofFault .emptyInput).code = 7007 ∨ (Failure.ofFault .emptyInput).code = 7008) := by
  have unreadable : (Cipher.parse "S").outcome = .error (.danglingShiftOperator 0) := by
    decide +kernel
  have readable : (Cipher.parse "S1").outcome = .ok [.rotate 1] := by decide +kernel
  have rejected : Layout.ofStrings ["AB", "BA"] = .error (.duplicateCell 1 0) := by decide +kernel
  have built : Settings.unset.layout = .ok .qwerty := rfl
  have failed : (Layout.qwerty.execute "S1" "").outcome = .error .emptyInput := by decide +kernel
  have ended : (run .unset (some (.encode "" none .json))).outcome =
      .error (.ofFault .emptyInput) := by decide +kernel
  have usable : ¬ DefaultUnreadable .unset none := by
    rintro ⟨_, fault, failed⟩
    cases readable.symm.trans failed
  obtain ⟨encodes, shows, _, sample, _⟩ := exitStatus_run ⟨none, some "S", some ["AB", "BA"]⟩
  obtain ⟨refuses, _, _, _, fails⟩ := exitStatus_run .unset
  rw [sample]
  have refused := (refuses "" none .json).eight.mpr
    ⟨usable, Settings.not_rejects built, _, _, built, failed⟩
  refine ⟨(encodes "DOG" none .text).two.mpr ⟨rfl, _, unreadable⟩,
    (shows none .json).three.mpr ⟨not_false, _, _, rfl, rejected⟩, refused, ended, ?_⟩
  obtain ⟨_, ⟨status, _⟩ | ⟨status, _⟩ | ⟨_, blamed⟩⟩ := fails _ _ ended
  · cases refused.symm.trans status
  · cases refused.symm.trans status
  · exact blamed rfl

end Command

end LayoutCipher
