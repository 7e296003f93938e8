import LayoutCipher.Event

/-!
# Logged computations

A logged computation ends with a value or an error and leaves a list of events behind.  In a
sequence the events of the parts follow each other, and nothing happens after the first error.
-/

namespace LayoutCipher

/-- What a computation reported, and how it ended. -/
structure Logged (ε α : Type) where
  events : List Event
  outcome : Except ε α

namespace Logged

variable {ε δ α β : Type}

/-- Ends at once with a value. -/
protected def pure (value : α) : Logged ε α :=
  ⟨[], .ok value⟩

/-- Runs one computation after another. -/
protected def bind (first : Logged ε α) (next : α → Logged ε β) : Logged ε β :=
  match first.outcome with
  | .error error => ⟨first.events, .error error⟩
  | .ok value => ⟨first.events ++ (next value).events, (next value).outcome⟩

instance : Monad (Logged ε) where
  pure := Logged.pure
  bind := Logged.bind

def emit (event : Event) : Logged ε Unit :=
  ⟨[event], .ok ()⟩

def ofExcept (outcome : Except ε α) : Logged ε α :=
  ⟨[], outcome⟩

/-- Restates the error of a computation. -/
def mapError (f : ε → δ) (computation : Logged ε α) : Logged δ α :=
  ⟨computation.events, computation.outcome.mapError f⟩

/-! ## Outcomes -/

@[simp]
theorem outcome_pure (value : α) : (pure value : Logged ε α).outcome = .ok value :=
  rfl

@[simp]
theorem outcome_emit (event : Event) : (emit event : Logged ε Unit).outcome = .ok () :=
  rfl

@[simp]
theorem outcome_ofExcept (outcome : Except ε α) : (ofExcept outcome).outcome = outcome :=
  rfl

@[simp]
theorem outcome_mapError (f : ε → δ) (computation : Logged ε α) :
    (computation.mapError f).outcome = computation.outcome.mapError f :=
  rfl

/-- The outcome of a sequence is the sequence of the outcomes. -/
@[simp]
theorem outcome_bind (first : Logged ε α) (next : α → Logged ε β) :
    (first >>= next).outcome = first.outcome >>= fun value => (next value).outcome := by
  change (Logged.bind first next).outcome = Except.bind first.outcome _
  unfold Logged.bind
  cases first.outcome <;> rfl

/-! ## Events -/

@[simp]
theorem events_pure (value : α) : (pure value : Logged ε α).events = [] :=
  rfl

@[simp]
theorem events_emit (event : Event) : (emit event : Logged ε Unit).events = [event] :=
  rfl

@[simp]
theorem events_ofExcept (outcome : Except ε α) : (ofExcept outcome).events = [] :=
  rfl

@[simp]
theorem events_mapError (f : ε → δ) (computation : Logged ε α) :
    (computation.mapError f).events = computation.events :=
  rfl

theorem events_bind_of_ok {first : Logged ε α} {value : α} (ok : first.outcome = .ok value)
    (next : α → Logged ε β) :
    (first >>= next).events = first.events ++ (next value).events := by
  change (Logged.bind first next).events = _
  simp [Logged.bind, ok]

theorem events_bind_of_error {first : Logged ε α} {error : ε}
    (failed : first.outcome = .error error) (next : α → Logged ε β) :
    (first >>= next).events = first.events := by
  change (Logged.bind first next).events = _
  simp [Logged.bind, failed]

end Logged

end LayoutCipher
