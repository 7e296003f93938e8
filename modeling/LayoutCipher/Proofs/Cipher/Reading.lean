import LayoutCipher.Proofs.Cipher.Amounts

/-!
# Reading by positions

The reader jumps from one operation to the next.  `readEach` visits every character instead, also
those of an amount, and gives the same operations on a well placed text, because no amount holds a
letter.  What it reads at a position depends on that position alone: the letter there and the
number behind it.
-/

namespace LayoutCipher.Cipher

/-! ## One character -/

/-- Whether a character names an operation. -/
def isLetter (c : Char) : Bool :=
  c = 'H' || c = 'V' || c = 'S'

/-- What a character says by itself, at a position and in front of `rest`. -/
def say (position : Nat) (c : Char) (rest : List Char) : Except Fault (Option Operation) :=
  Prod.fst <$> turn c ⟨position + 1, rest⟩

/-- The number of characters behind `c` that one turn of the reader takes along. -/
def taken (c : Char) (rest : List Char) : Nat :=
  if c = 'S' then (Literal.ofFront rest).length else 0

theorem isLetter_of_isDigit {c : Char} (digit : c.isDigit) : isLetter c = false := by
  simp only [isLetter, Bool.or_eq_false_iff, decide_eq_false_iff_not]
  refine ⟨⟨?_, ?_⟩, ?_⟩ <;> rintro rfl <;> cases digit

theorem say_of_not_isLetter {c : Char} (silent : isLetter c = false) (position : Nat)
    (rest : List Char) : say position c rest = .ok none := by
  obtain ⟨⟨notH, notV⟩, notS⟩ : (c ≠ 'H' ∧ c ≠ 'V') ∧ c ≠ 'S' := by simpa [isLetter] using silent
  simp [say, turn, notH, notV, notS, Functor.map, Except.map]

/-- Only a shift operator looks behind itself: any other character says the same everywhere, and
the reader goes on right behind it. -/
theorem turn_of_ne_shift {c : Char} (other : c ≠ 'S') :
    ∃ said, ∀ after, turn c after = .ok (said, after) := by
  by_cases horizontal : c = 'H'
  · exact ⟨some .horizontalFlip, fun _ => by simp [turn, horizontal]⟩
  · by_cases vertical : c = 'V'
    · exact ⟨some .verticalFlip, fun _ => by simp [turn, vertical]⟩
    · exact ⟨none, fun _ => by simp [turn, horizontal, vertical, other]⟩

theorem turn_shift {rest : List Char} (placed : WellPlaced ('S' :: rest)) (position : Nat) :
    turn 'S' ⟨position, rest⟩ =
      match (Literal.ofFront rest).amount? with
      | some amount =>
          .ok (some (.rotate amount), Cursor.advance ⟨position, rest⟩ (taken 'S' rest))
      | none => .error (.shiftAmountOutOfRange position) := by
  have read := readAmount_of_wellPlaced placed position
  cases amount : (Literal.ofFront rest).amount? <;>
    simp [turn, taken, read, amount, bind, Except.bind, pure, Except.pure]

theorem say_shift {rest : List Char} (placed : WellPlaced ('S' :: rest)) (position : Nat) :
    say position 'S' rest =
      match (Literal.ofFront rest).amount? with
      | some amount => .ok (some (.rotate amount))
      | none => .error (.shiftAmountOutOfRange (position + 1)) := by
  rw [say, turn_shift placed]
  cases (Literal.ofFront rest).amount? <;> rfl

/-- A turn reads what the character says and goes on behind what it takes along. -/
theorem turn_eq_say {c : Char} {rest : List Char} (placed : WellPlaced (c :: rest))
    (position : Nat) :
    turn c ⟨position + 1, rest⟩ = (do
      let said ← say position c rest
      return (said, Cursor.advance ⟨position + 1, rest⟩ (taken c rest))) := by
  by_cases shift : c = 'S'
  · subst shift
    rw [say_shift placed, turn_shift placed]
    cases (Literal.ofFront rest).amount? <;> rfl
  · obtain ⟨said, turned⟩ := turn_of_ne_shift shift
    rw [say, turned, taken, if_neg shift]
    rfl

/-! ## All characters -/

/-- The operations that the characters of a text say, each read by itself. -/
def readEach (position : Nat) : List Char → Except Fault (List Operation)
  | [] => .ok []
  | c :: rest => do
      let said ← say position c rest
      let operations ← readEach (position + 1) rest
      return said.toList ++ operations

theorem readEach_append_of_not_isLetter {first : List Char}
    (silent : ∀ c ∈ first, isLetter c = false) (position : Nat) (second : List Char) :
    readEach position (first ++ second) = readEach (position + first.length) second := by
  induction first generalizing position with
  | nil => rfl
  | cons c rest ih =>
      -- the first character is visited, says nothing and cannot fail
      rw [List.cons_append, readEach, say_of_not_isLetter (silent c List.mem_cons_self),
        ih (fun other mem => silent other (List.mem_cons_of_mem c mem)), List.length_cons,
        Nat.add_right_comm, Nat.add_assoc]
      cases readEach _ second <;> rfl

theorem say_append {c : Char} {rest second : List Char} (placed : WellPlaced (c :: rest))
    (right : WellPlaced second)
    (seam : startsWithDigit second = false ∨ ¬ EndsInAmount (c :: rest)) (position : Nat) :
    say position c (rest ++ second) = say position c rest := by
  by_cases shift : c = 'S'
  · subst shift
    have stop : startsWithDigit second = false ∨ isAmount rest = false := by
      refine seam.imp_right fun noAmount => ?_
      rw [endsInAmount_cons] at noAmount
      simpa using fun all => noAmount (.inl ⟨rfl, all⟩)
    have nonempty : rest ≠ [] := by
      rintro rfl
      exact Literal.digits_ne_nil placed rfl
    have whole : WellPlaced ('S' :: (rest ++ second)) := placed.append right
    rw [say_shift whole, say_shift placed, Literal.ofFront_append nonempty stop]
  · obtain ⟨said, turned⟩ := turn_of_ne_shift shift
    rw [say, say, turned, turned]
    rfl

/-- Two well placed texts are read one after the other, unless the first ends in an amount and the
second opens with a digit. -/
theorem readEach_append {first second : List Char} (left : WellPlaced first)
    (right : WellPlaced second) (seam : startsWithDigit second = false ∨ ¬ EndsInAmount first)
    (position : Nat) :
    readEach position (first ++ second) = (do
      let earlier ← readEach position first
      let later ← readEach (position + first.length) second
      return earlier ++ later) := by
  induction left generalizing position with
  | nil =>
      rw [List.nil_append, List.length_nil, readEach, Nat.add_zero]
      cases readEach position second <;> rfl
  | @cons c rest legal shift sign placed ih =>
      have whole : WellPlaced (c :: rest) := .cons legal shift sign placed
      have later : startsWithDigit second = false ∨ ¬ EndsInAmount rest :=
        seam.imp_right fun noAmount ends => noAmount (endsInAmount_cons.mpr (.inr ends))
      rw [List.cons_append, readEach, readEach, say_append whole right seam, ih later,
        List.length_cons, Nat.add_right_comm, Nat.add_assoc]
      cases say position c rest with
      | error fault => rfl
      | ok said =>
          cases readEach (position + 1) rest with
          | error fault => rfl
          | ok earlier =>
              cases readEach _ second with
              | error fault => rfl
              | ok later => simp [bind, Except.bind, pure, Except.pure]

theorem isLetter_of_mem_chars {text : List Char} {c : Char}
    (mem : c ∈ (Literal.ofFront text).chars) : isLetter c = false := by
  unfold Literal.chars at mem
  split at mem
  · rcases List.mem_cons.mp mem with rfl | mem
    · rfl
    · exact isLetter_of_isDigit (Literal.isDigit_of_mem_digits mem)
  · exact isLetter_of_isDigit (Literal.isDigit_of_mem_digits mem)

theorem readEach_drop_taken (c : Char) (rest : List Char) (position : Nat) :
    readEach (position + taken c rest) (rest.drop (taken c rest)) = readEach position rest := by
  -- the literal that a shift operator takes along holds no letter, so nothing is lost in it
  unfold taken
  split
  · conv => rhs; rw [← Literal.chars_append_drop rest]
    rw [readEach_append_of_not_isLetter fun _ => isLetter_of_mem_chars, Literal.length_chars]
  · rfl

theorem readOperations_cons (position : Nat) (c : Char) (rest : List Char) :
    readOperations ⟨position, c :: rest⟩ = (do
      let (said, next) ← turn c ⟨position + 1, rest⟩
      let operations ← readOperations next
      return said.toList ++ operations) := by
  rw [readOperations]
  split
  · next fault turned => simp only [turned, bind, Except.bind]
  · next said next turned =>
      simp only [turned, bind, Except.bind]
      cases readOperations next <;> rfl

/-- On a well placed text the reader reads what the characters say one by one. -/
theorem readOperations_eq_readEach : ∀ {text : List Char}, WellPlaced text →
    ∀ position, readOperations ⟨position, text⟩ = readEach position text
  | [], _, position => by rw [readOperations, readEach]
  | c :: rest, placed, position => by
      -- what is left behind a turn is a piece of the text, so it is well placed again
      have behind : WellPlaced (rest.drop (taken c rest)) := by
        cases placed with
        | cons _ _ _ placed =>
            rw [← List.take_append_drop (taken c rest) rest] at placed
            exact placed.of_append_right
      rw [readOperations_cons, turn_eq_say placed, readEach,
        ← readEach_drop_taken c rest (position + 1), ← readOperations_eq_readEach behind]
      cases say position c rest <;> rfl
termination_by text => text.length
decreasing_by
  simp only [List.length_drop, List.length_cons]
  omega

theorem outcome_parse_of_error {cipher : String} {fault : Fault}
    (failed : check cipher = .error fault) : (parse cipher).outcome = .error fault := by
  rw [outcome_parse, operations, failed]
  rfl

theorem outcome_parse_of_ok {cipher : String} (passed : check cipher = .ok ()) :
    (parse cipher).outcome = readEach 0 cipher.toList := by
  have placed : WellPlaced cipher.toList := (checkChars_eq_ok_iff.mp passed).2.1
  rw [outcome_parse, operations, passed, ← readOperations_eq_readEach placed]
  rfl

theorem check_of_outcome_parse_eq_ok {cipher : String} {operations : List Operation}
    (parsed : (parse cipher).outcome = .ok operations) : check cipher = .ok () := by
  cases checked : check cipher with
  | error fault =>
      rw [outcome_parse_of_error checked] at parsed
      cases parsed
  | ok _ => rfl

end LayoutCipher.Cipher
