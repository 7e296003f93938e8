/-!
# Guarded accesses

A program that reads texts and cells by position relies on the positions being there.  In a guarded
computation such a step is allowed to go wrong: it ends the computation with a trap.  That nothing
goes wrong is then an equation, between the guarded computation and a plain result.
-/

namespace LayoutCipher

/-- A step that leaves its bounds. -/
inductive Trap where
  | index (position length : Nat)
  | slice (start stop length : Nat)
  | underflow
  | zeroDivisor
  | zeroChunk
  | rotation (offset length : Nat)
  | replacement (given present : Nat)
  deriving DecidableEq

/-- A computation that ends with a value, or at once with a trap. -/
abbrev Guarded :=
  Except Trap

namespace Guarded

variable {α β ε : Type}

@[simp]
theorem pure_eq_ok (a : α) : (pure a : Except ε α) = .ok a :=
  rfl

@[simp]
theorem ok_bind (a : α) (next : α → Except ε β) : (Except.ok a : Except ε α) >>= next = next a :=
  rfl

@[simp]
theorem error_bind (e : ε) (next : α → Except ε β) :
    (Except.error e : Except ε α) >>= next = .error e :=
  rfl

/-- Goes on with a value; a failure, which is no trap, stays what it is. -/
def onSuccess (result : Except ε α) (next : α → Guarded (Except ε β)) : Guarded (Except ε β) :=
  match result with
  | .error failure => .ok (.error failure)
  | .ok value => next value

theorem onSuccess_eq_ok {result : Except ε α} {next : α → Guarded (Except ε β)}
    {after : α → Except ε β} (safe : ∀ value, result = .ok value → next value = .ok (after value)) :
    onSuccess result next = .ok (result >>= after) := by
  cases result with
  | error failure => rfl
  | ok value => exact safe value rfl

/-! ## Lists -/

def get (entries : List α) (position : Nat) : Guarded α :=
  match entries[position]? with
  | some entry => .ok entry
  | none => .error (.index position entries.length)

/-- The entries from one position up to another. -/
def slice (entries : List α) (start stop : Nat) : Guarded (List α) :=
  if start ≤ stop ∧ stop ≤ entries.length then .ok ((entries.take stop).drop start)
  else .error (.slice start stop entries.length)

/-- The pieces of a length that a list begins with, without a shorter piece at the end. -/
def chunks (size : Nat) (entries : List α) : Guarded (List (List α)) :=
  if size = 0 then .error .zeroChunk
  else
    .ok ((List.range (entries.length / size)).map fun r => (entries.drop (r * size)).take size)

/-- The entries, each moved to the right by an offset, from the end to the front. -/
def rotateRight (offset : Nat) (entries : List α) : Guarded (List α) :=
  if offset ≤ entries.length then .ok (entries.rotateRight offset)
  else .error (.rotation offset entries.length)

theorem mapM_eq_ok {f : α → Guarded β} {g : α → β} {entries : List α}
    (safe : ∀ entry ∈ entries, f entry = .ok (g entry)) :
    entries.mapM f = .ok (entries.map g) := by
  induction entries with
  | nil => rfl
  | cons entry rest ih =>
      rw [List.mapM_cons, safe entry List.mem_cons_self, ok_bind,
        ih fun other mem => safe other (List.mem_cons_of_mem entry mem)]
      rfl

theorem get_of_getElem? {entries : List α} {position : Nat} {entry : α}
    (here : entries[position]? = some entry) : get entries position = .ok entry := by
  rw [get, here]

theorem slice_of_le {entries : List α} {start stop : Nat} (ordered : start ≤ stop)
    (inside : stop ≤ entries.length) :
    slice entries start stop = .ok ((entries.take stop).drop start) :=
  if_pos ⟨ordered, inside⟩

theorem chunks_of_pos {size : Nat} (pos : 0 < size) (entries : List α) :
    chunks size entries = .ok ((List.range (entries.length / size)).map fun r =>
      (entries.drop (r * size)).take size) :=
  if_neg (Nat.ne_of_gt pos)

theorem rotateRight_of_le {offset : Nat} {entries : List α} (inside : offset ≤ entries.length) :
    rotateRight offset entries = .ok (entries.rotateRight offset) :=
  if_pos inside

/-! ## Numbers -/

def predecessor (n : Nat) : Guarded Nat :=
  if n = 0 then .error .underflow else .ok (n - 1)

def divMod (n divisor : Nat) : Guarded (Nat × Nat) :=
  if divisor = 0 then .error .zeroDivisor else .ok (n / divisor, n % divisor)

/-- The remainder of a whole number that is not negative. -/
def remainder (n : Int) (divisor : Nat) : Guarded Nat :=
  if divisor = 0 then .error .zeroDivisor else .ok (n % (divisor : Int)).toNat

theorem predecessor_of_pos {n : Nat} (pos : 0 < n) : predecessor n = .ok (n - 1) :=
  if_neg (Nat.ne_of_gt pos)

theorem divMod_of_pos (n : Nat) {divisor : Nat} (pos : 0 < divisor) :
    divMod n divisor = .ok (n / divisor, n % divisor) :=
  if_neg (Nat.ne_of_gt pos)

theorem remainder_of_pos (n : Int) {divisor : Nat} (pos : 0 < divisor) :
    remainder n divisor = .ok (n % (divisor : Int)).toNat :=
  if_neg (Nat.ne_of_gt pos)

end Guarded

end LayoutCipher
