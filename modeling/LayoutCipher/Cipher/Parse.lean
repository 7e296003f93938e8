import LayoutCipher.Cipher.Amount
import LayoutCipher.Cipher.Check
import LayoutCipher.Logged

/-!
# Reading ciphers

A checked cipher is read from left to right.  The letters `H`, `V` and `S` give one operation
each; the amount of an `S` is read together with it; every other digit or sign says nothing.
-/

namespace LayoutCipher.Cipher

/-- One turn of the reading: what the character in front of `after` says, and where to go on. -/
def turn (c : Char) (after : Cursor) : Except Fault (Option Operation × Cursor) :=
  if c = 'H' then .ok (some .horizontalFlip, after)
  else if c = 'V' then .ok (some .verticalFlip, after)
  else if c = 'S' then do
    let (amount, behind) ← readAmount after
    return (some (.rotate amount), behind)
  else .ok (none, after)

/-- All that a turn can come to, unless it fails: the operation of a letter, or silence. -/
theorem turn_eq_ok {c : Char} {after next : Cursor} {said : Option Operation}
    (turned : turn c after = .ok (said, next)) :
    (c = 'H' ∧ said = some .horizontalFlip ∧ next = after) ∨
      (c = 'V' ∧ said = some .verticalFlip ∧ next = after) ∨
      (c = 'S' ∧ ∃ amount, said = some (.rotate amount) ∧ readAmount after = .ok (amount, next)) ∨
      ((c ≠ 'H' ∧ c ≠ 'V' ∧ c ≠ 'S') ∧ said = none ∧ next = after) := by
  by_cases horizontal : c = 'H'
  · simp_all [turn]
  by_cases vertical : c = 'V'
  · simp_all [turn]
  by_cases shift : c = 'S'
  · subst shift
    cases read : readAmount after with
    | error fault => simp [turn, read, bind, Except.bind] at turned
    | ok result =>
        obtain ⟨amount, behind⟩ := result
        obtain ⟨rfl, rfl⟩ : _ = said ∧ behind = next := by
          simpa [turn, read, bind, Except.bind, pure, Except.pure] using turned
        simp
  · simp_all [turn]

theorem turn_rest_length_le {c : Char} {after next : Cursor} {said : Option Operation}
    (turned : turn c after = .ok (said, next)) : next.rest.length ≤ after.rest.length := by
  rcases turn_eq_ok turned with ⟨_, _, rfl⟩ | ⟨_, _, rfl⟩ | ⟨_, _, _, read⟩ | ⟨_, _, rfl⟩
  · exact Nat.le_refl _
  · exact Nat.le_refl _
  · exact readAmount_rest_length_le read
  · exact Nat.le_refl _

/-- The operations written from the cursor on, up to the first amount that is out of range. -/
def readOperations : Cursor → Except Fault (List Operation)
  | ⟨_, []⟩ => .ok []
  | ⟨position, c :: rest⟩ =>
      match _turned : turn c ⟨position + 1, rest⟩ with
      | .error fault => .error fault
      | .ok (said, next) =>
          match readOperations next with
          | .error fault => .error fault
          | .ok operations => .ok (said.toList ++ operations)
termination_by cursor => cursor.rest.length
decreasing_by
  exact Nat.lt_succ_of_le (turn_rest_length_le _turned)

/-- Checks a cipher and reads the operations it stands for, first to last. -/
def operations (cipher : String) : Except Fault (List Operation) := do
  check cipher
  readOperations ⟨0, cipher.toList⟩

/-- Checks a cipher and reports its success. -/
def validate (cipher : String) : Logged Fault Unit := do
  Logged.ofExcept (check cipher)
  Logged.emit (.cipherPassed cipher)

/-- Validates a cipher and reads its operations. -/
def parse (cipher : String) : Logged Fault (List Operation) := do
  validate cipher
  Logged.ofExcept (readOperations ⟨0, cipher.toList⟩)

theorem outcome_validate (cipher : String) : (validate cipher).outcome = check cipher := by
  rw [validate, Logged.outcome_bind, Logged.outcome_ofExcept]
  cases check cipher <;> rfl

theorem outcome_parse (cipher : String) : (parse cipher).outcome = operations cipher := by
  rw [parse, Logged.outcome_bind, outcome_validate]
  rfl

theorem events_validate_of_ok {cipher : String} (passed : check cipher = .ok ()) :
    (validate cipher).events = [.cipherPassed cipher] := by
  have checked : (Logged.ofExcept (check cipher)).outcome = .ok () := passed
  rw [validate, Logged.events_bind_of_ok checked]
  rfl

theorem events_validate_of_error {cipher : String} {fault : Fault}
    (failed : check cipher = .error fault) : (validate cipher).events = [] := by
  have checked : (Logged.ofExcept (check cipher)).outcome = .error fault := failed
  rw [validate, Logged.events_bind_of_error checked]
  rfl

/-- Reading the operations of a cipher reports nothing beyond its validation. -/
theorem events_parse (cipher : String) : (parse cipher).events = (validate cipher).events := by
  unfold parse
  cases validated : (validate cipher).outcome with
  | error fault => rw [Logged.events_bind_of_error validated]
  | ok _ => rw [Logged.events_bind_of_ok validated, Logged.events_ofExcept, List.append_nil]

end LayoutCipher.Cipher
