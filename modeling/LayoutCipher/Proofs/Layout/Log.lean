import LayoutCipher.Proofs.Layout.Stages

/-!
# The log of an execution

What an execution reports tells exactly how far it came.  The cipher is reported once when its own
check has passed, and once more when the reading that comes behind the check of the input passes it
again.  Operations are reported one by one only after all checks, and the end of the run last, so a
run that fails has reported neither.
-/

namespace LayoutCipher

/-- What a log shows of an event. -/
structure Event.Entry where
  severity : Severity
  message : String
  fields : List (String × FieldValue)
  deriving DecidableEq, Repr

def Event.entry (event : Event) : Event.Entry :=
  ⟨event.severity, event.message, event.fields⟩

namespace Layout

open Operation (applyAll)
open Event (Entry)

variable {layout : Layout} {cipher input output : String} {fault : Fault}
  {operations : List Operation}

/-! ## Entries -/

def passedEntry (cipher : String) : Entry :=
  ⟨.trace, "Cipher passed validation", [("cipher", .quoted cipher)]⟩

def appliedEntry (operation : Operation) : Entry :=
  ⟨.trace, "Applying operation", [("op", .shown operation.text)]⟩

/-- The entry of a retyping counts the characters of the input. -/
def retypedEntry (cipher : String) (operations : List Operation) (input : String) : Entry :=
  ⟨.debug, "Retyped input on transformed layout",
    [("cipher", .quoted cipher), ("operations", .count operations.length),
      ("input_len", .count input.toList.length)]⟩

/-- Only the success of a check is shown like one. -/
theorem eq_cipherPassed_of_entry_eq {event : Event} (shown : event.entry = passedEntry cipher) :
    event = .cipherPassed cipher := by
  obtain ⟨severity, _, fields⟩ := Event.Entry.mk.inj shown
  cases event with
  | cipherPassed other => simpa [Event.fields] using fields
  | operationApplied operation => simp [Event.fields] at fields
  | argumentsReceived text => simp [Event.fields] at fields
  | _ => simp [Event.severity] at severity

/-! ## Events -/

theorem events_validate_of_passed (passed : (Cipher.validate cipher).outcome = .ok ()) :
    (Cipher.validate cipher).events = [.cipherPassed cipher] :=
  Cipher.events_validate_of_ok ((Cipher.outcome_validate cipher).symm.trans passed)

theorem events_execute_of_validate_eq_error
    (refused : (Cipher.validate cipher).outcome = .error fault) :
    (layout.execute cipher input).events = [] := by
  rw [execute, Logged.events_bind_of_error refused]
  exact Cipher.events_validate_of_error ((Cipher.outcome_validate cipher).symm.trans refused)

theorem events_execute_of_checkInput_eq_error
    (passed : (Cipher.validate cipher).outcome = .ok ())
    (refused : layout.checkInput input = .error fault) :
    (layout.execute cipher input).events = [.cipherPassed cipher] := by
  have stopped : (Logged.ofExcept (layout.checkInput input)).outcome = .error fault := refused
  rw [execute, Logged.events_bind_of_ok passed, Logged.events_bind_of_error stopped,
    events_validate_of_passed passed]
  rfl

theorem events_execute_of_parse_eq_error
    (passed : (Cipher.validate cipher).outcome = .ok ())
    (accepted : layout.checkInput input = .ok ())
    (unread : (Cipher.parse cipher).outcome = .error fault) :
    (layout.execute cipher input).events = [.cipherPassed cipher, .cipherPassed cipher] := by
  have typable : (Logged.ofExcept (layout.checkInput input)).outcome = .ok () := accepted
  rw [execute, Logged.events_bind_of_ok passed, Logged.events_bind_of_ok typable,
    Logged.events_bind_of_error unread, Cipher.events_parse, events_validate_of_passed passed]
  rfl

theorem events_execute_of_parse_eq_ok (accepted : layout.checkInput input = .ok ())
    (parsed : (Cipher.parse cipher).outcome = .ok operations) :
    (layout.execute cipher input).events =
      [.cipherPassed cipher, .cipherPassed cipher] ++ operations.map .operationApplied ++
        [.inputRetyped cipher operations.length input.length] := by
  have passed : (Cipher.validate cipher).outcome = .ok () := by
    rw [Cipher.outcome_validate, Cipher.check_of_outcome_parse_eq_ok parsed]
  obtain ⟨output, types⟩ := exists_retype_eq_ok operations (checkInput_eq_ok_iff.mp accepted).2
  have typable : (Logged.ofExcept (layout.checkInput input)).outcome = .ok () := accepted
  have typed : (Logged.ofExcept (layout.retype (applyAll operations layout) input)).outcome =
    .ok output := types
  rw [execute, Logged.events_bind_of_ok passed, Logged.events_bind_of_ok typable,
    Logged.events_bind_of_ok parsed,
    Logged.events_bind_of_ok (Operation.outcome_applyAllLogged operations layout),
    Logged.events_bind_of_ok typed, Cipher.events_parse, events_validate_of_passed passed,
    Operation.events_applyAllLogged]
  simp [Logged.events_bind_of_ok]

/-! ## Runs -/

/-- How an execution ends, and what it leaves in the log. -/
inductive Logs (layout : Layout) (cipher input : String) :
    Except Fault String → List Entry → Prop where
  | refusedCipher {fault : Fault} (refused : (Cipher.validate cipher).outcome = .error fault) :
      Logs layout cipher input (.error fault) []
  | refusedInput {fault : Fault} (passed : (Cipher.validate cipher).outcome = .ok ())
      (refused : layout.checkInput input = .error fault) :
      Logs layout cipher input (.error fault) [passedEntry cipher]
  | outOfRange {position : Nat} (passed : (Cipher.validate cipher).outcome = .ok ())
      (accepted : layout.checkInput input = .ok ())
      (unread : (Cipher.parse cipher).outcome = .error (.shiftAmountOutOfRange position)) :
      Logs layout cipher input (.error (.shiftAmountOutOfRange position))
        [passedEntry cipher, passedEntry cipher]
  | retyped {operations : List Operation} {output : String}
      (accepted : layout.checkInput input = .ok ())
      (parsed : (Cipher.parse cipher).outcome = .ok operations)
      (types : layout.retype (applyAll operations layout) input = .ok output) :
      Logs layout cipher input (.ok output)
        ([passedEntry cipher, passedEntry cipher] ++ operations.map appliedEntry ++
          [retypedEntry cipher operations input])

theorem Logs.sound {result : Except Fault String} {log : List Entry}
    (logs : layout.Logs cipher input result log) :
    (layout.execute cipher input).outcome = result ∧
      (layout.execute cipher input).events.map Event.entry = log := by
  cases logs with
  | refusedCipher refused =>
      exact ⟨(Executes.refusedCipher refused).outcome_eq, by
        rw [events_execute_of_validate_eq_error refused, List.map_nil]⟩
  | refusedInput passed refused =>
      exact ⟨outcome_execute_of_checkInput_eq_error passed refused, by
        rw [events_execute_of_checkInput_eq_error passed refused]
        rfl⟩
  | outOfRange passed accepted unread =>
      constructor
      · rw [outcome_execute_of_accepted accepted, unread]
        rfl
      · rw [events_execute_of_parse_eq_error passed accepted unread]
        rfl
  | @retyped operations output accepted parsed types =>
      have typable := (checkInput_eq_ok_iff.mp accepted).2
      constructor
      · rw [outcome_execute_of_ok parsed accepted, ← types,
          retype_eq_map (Operation.rearranges_applyAll operations layout) typable]
      · rw [events_execute_of_parse_eq_ok accepted parsed, List.map_append, List.map_append,
          List.map_map]
        rfl

theorem exists_logs (layout : Layout) (cipher input : String) :
    ∃ result log, layout.Logs cipher input result log := by
  cases passed : (Cipher.validate cipher).outcome with
  | error fault => exact ⟨_, _, .refusedCipher passed⟩
  | ok _ =>
      cases accepted : layout.checkInput input with
      | error fault => exact ⟨_, _, .refusedInput passed accepted⟩
      | ok _ =>
          cases parsed : (Cipher.parse cipher).outcome with
          | error fault =>
              obtain ⟨position, rfl⟩ :=
                Cipher.exists_outOfRange_of_outcome_parse_eq_error passed parsed
              exact ⟨_, _, .outOfRange passed accepted parsed⟩
          | ok operations =>
              obtain ⟨output, types⟩ :=
                exists_retype_eq_ok operations (checkInput_eq_ok_iff.mp accepted).2
              exact ⟨_, _, .retyped accepted parsed types⟩

theorem logs_execute (layout : Layout) (cipher input : String) :
    layout.Logs cipher input (layout.execute cipher input).outcome
      ((layout.execute cipher input).events.map Event.entry) := by
  obtain ⟨result, log, logs⟩ := exists_logs layout cipher input
  obtain ⟨outcome, entries⟩ := logs.sound
  rwa [outcome, entries]

theorem Logs.eq_passedEntry {log : List Entry}
    (logs : layout.Logs cipher input (.error fault) log) :
    ∀ entry ∈ log, entry = passedEntry cipher := by
  cases logs with
  | refusedCipher _ => simp
  | refusedInput _ _ => simp
  | outOfRange _ _ _ => simp

/-- The end of an execution and its log are decided together.  An execution that fails reports
nothing but the checks that its cipher has passed: it has applied no operation. -/
theorem events_execute_iff_logs (layout : Layout) (cipher input : String) :
    (∀ result log, (layout.execute cipher input).outcome = result ∧
      (layout.execute cipher input).events.map Event.entry = log ↔
        layout.Logs cipher input result log) ∧
    ∀ fault, (layout.execute cipher input).outcome = .error fault →
      ∀ event ∈ (layout.execute cipher input).events, event = .cipherPassed cipher := by
  have ends := logs_execute layout cipher input
  refine ⟨fun result log => ⟨?_, Logs.sound⟩, fun fault failed event mem => ?_⟩
  · rintro ⟨rfl, rfl⟩
    exact ends
  · rw [failed] at ends
    exact eq_cipherPassed_of_entry_eq (ends.eq_passedEntry _ (List.mem_map_of_mem mem))

/-- The cipher `HS-1` is reported twice on `DOG`, then its two operations, then three characters;
on `dog` it is reported once, and with an amount out of range twice and nothing more. -/
theorem events_execute_iff_logs_qwerty :
    (qwerty.execute "HS-1" "DOG").events.map Event.entry =
        [passedEntry "HS-1", passedEntry "HS-1", appliedEntry .horizontalFlip,
          appliedEntry (.rotate (-1)),
          ⟨.debug, "Retyped input on transformed layout",
            [("cipher", .quoted "HS-1"), ("operations", .count 2), ("input_len", .count 3)]⟩] ∧
      (qwerty.execute "HS-1" "dog").events.map Event.entry = [passedEntry "HS-1"] ∧
      (qwerty.execute "S99999999999999999999" "DOG").outcome =
        .error (.shiftAmountOutOfRange 1) ∧
      ∀ event ∈ (qwerty.execute "S99999999999999999999" "DOG").events,
        event = .cipherPassed "S99999999999999999999" := by
  have parsed : (Cipher.parse "HS-1").outcome = .ok [.horizontalFlip, .rotate (-1)] := by
    decide +kernel
  have passed : (Cipher.validate "HS-1").outcome = .ok () := by decide +kernel
  have accepted : qwerty.checkInput "DOG" = .ok () := by decide +kernel
  have refused : qwerty.checkInput "dog" = .error (.characterNotOnGrid 0 'd') := by decide +kernel
  have passed' : (Cipher.validate "S99999999999999999999").outcome = .ok () := by decide +kernel
  have unread : (Cipher.parse "S99999999999999999999").outcome =
      .error (.shiftAmountOutOfRange 1) := by decide +kernel
  obtain ⟨output, types⟩ := exists_retype_eq_ok [.horizontalFlip, .rotate (-1)]
    (checkInput_eq_ok_iff.mp accepted).2
  obtain ⟨encodes, _⟩ := events_execute_iff_logs qwerty "HS-1" "DOG"
  obtain ⟨stops, _⟩ := events_execute_iff_logs qwerty "HS-1" "dog"
  obtain ⟨fails, reports⟩ := events_execute_iff_logs qwerty "S99999999999999999999" "DOG"
  have failed := ((fails _ _).mpr (.outOfRange passed' accepted unread)).1
  exact ⟨((encodes _ _).mpr (.retyped accepted parsed types)).2,
    ((stops _ _).mpr (.refusedInput passed refused)).2, failed, reports _ failed⟩

end Layout

end LayoutCipher
