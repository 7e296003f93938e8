import LayoutCipher.Proofs.Access.Guarded
import LayoutCipher.Proofs.Cipher.Reading
import LayoutCipher.Proofs.Cipher.Scanning

/-!
# Ciphers by position

A cipher can be checked and read with a counter that is moved over an array of characters.  Every
access by position is then guarded, and the reading is a loop that could go on for ever.  Neither
happens: the passes before an access keep it inside the text, and each turn of the loop moves the
counter on.
-/

namespace LayoutCipher.Guarded

open Cipher

/-! ## Checking -/

/-- The positions of a character in a text whose characters are counted from `start` on. -/
def positionsFrom (c : Char) (start : Nat) (text : List Char) : List Nat :=
  ((text.zipIdx start).filter (·.1 = c)).map Prod.snd

/-- Asks for a digit behind each of the given positions, first to last. -/
def checkSigns (text : List Char) : List Nat → Guarded (Except Fault Unit)
  | [] => .ok (.ok ())
  | position :: later => do
      let behind ← get text (position + 1)
      if behind.isDigit then checkSigns text later
      else return .error (.negativeSignNotBeforeDigit position)

/-- The third pass.  It looks at the first and the last character before it has made sure that
there is one. -/
def checkNegativeSigns (text : List Char) : Guarded (Except Fault Unit) := do
  let last ← predecessor text.length
  let opening ← get text 0
  if opening = '-' then return .error (.misplacedNegativeSign 0)
  else
    let closing ← get text last
    if closing = '-' then return .error (.misplacedNegativeSign last)
    else checkSigns text (positionsFrom '-' 0 text)

def check (text : List Char) : Guarded (Except Fault Unit) :=
  onSuccess (checkCharacters text) fun _ =>
    onSuccess (checkShiftOperators text) fun _ => checkNegativeSigns text

theorem positionsFrom_cons (c first : Char) (start : Nat) (rest : List Char) :
    positionsFrom c start (first :: rest) =
      if first = c then start :: positionsFrom c (start + 1) rest
      else positionsFrom c (start + 1) rest := by
  by_cases same : first = c <;> simp [positionsFrom, same]

/-- What one step of the search for signs does, unless the sign is the last character. -/
theorem checkSigns_positionsFrom_cons {text rest : List Char} {start : Nat} {c d : Char}
    (front : text.drop start = c :: d :: rest) :
    checkSigns text (positionsFrom '-' start (c :: d :: rest)) =
      if isStraySign (c :: d :: rest) then .ok (.error (.negativeSignNotBeforeDigit start))
      else checkSigns text (positionsFrom '-' (start + 1) (d :: rest)) := by
  have behind : get text (start + 1) = .ok d :=
    get_of_getElem? (getElem?_of_drop_eq_cons (drop_succ_of_drop_eq_cons front))
  rw [positionsFrom_cons]
  by_cases sign : c = '-'
  · -- the character behind the sign is there, and it decides alone
    cases digit : d.isDigit <;>
      simp [sign, checkSigns, behind, digit, isStraySign, startsWithDigit]
  · simp [sign, isStraySign]

theorem checkSigns_eq {text rest : List Char} {start : Nat} (front : text.drop start = rest)
    (inside : rest.getLast? ≠ some '-') :
    checkSigns text (positionsFrom '-' start rest) =
      .ok (match firstSuffix? isStraySign rest with
        | some position => .error (.negativeSignNotBeforeDigit (start + position))
        | none => .ok ()) := by
  induction rest generalizing start with
  | nil => rfl
  | cons c rest ih =>
      cases rest with
      | nil =>
          -- the last character is no sign, so nothing is looked at
          have other : c ≠ '-' := by simpa using inside
          simp [other, positionsFrom, checkSigns, firstSuffix?, isStraySign]
      | cons d rest =>
          rw [checkSigns_positionsFrom_cons front]
          by_cases stray : isStraySign (c :: d :: rest)
          · simp [stray, firstSuffix?]
          · rw [if_neg stray, ih (drop_succ_of_drop_eq_cons front) (by simpa using inside),
              firstSuffix?_cons_of_false (Bool.eq_false_iff.mpr stray)]
            cases firstSuffix? isStraySign (d :: rest) <;> simp [Nat.add_assoc, Nat.add_comm 1]

theorem checkNegativeSigns_eq {text : List Char} (nonempty : text ≠ []) :
    checkNegativeSigns text = .ok (Cipher.checkNegativeSigns text) := by
  have pos : 0 < text.length := List.length_pos_iff.mpr nonempty
  have opening : text[0]? = some (text.head nonempty) := by
    rw [← List.head?_eq_getElem?, List.head?_eq_some_head nonempty]
  have closing : text[text.length - 1]? = some (text.getLast nonempty) := by
    rw [← List.getLast?_eq_getElem?, List.getLast?_eq_some_getLast nonempty]
  rw [checkNegativeSigns, predecessor_of_pos pos, ok_bind, get_of_getElem? opening, ok_bind,
    get_of_getElem? closing, ok_bind, Cipher.checkNegativeSigns,
    List.head?_eq_some_head nonempty, List.getLast?_eq_some_getLast nonempty]
  by_cases signOpens : text.head nonempty = '-'
  · simp [signOpens]
  · by_cases signCloses : text.getLast nonempty = '-'
    · simp [signOpens, signCloses]
    · have inside : text.getLast? ≠ some '-' := by
        simpa [List.getLast?_eq_some_getLast nonempty] using signCloses
      simp only [signOpens, signCloses, if_false, checkSigns_eq List.drop_zero inside,
        Option.some.injEq]
      cases firstSuffix? isStraySign text <;> simp

-- The third pass does not survive the empty text: it relies on the first to have refused it.
example : checkNegativeSigns [] = .error .underflow :=
  rfl

theorem check_eq (text : List Char) : check text = .ok (checkChars text) := by
  -- the first pass leaves the third a character to look at
  refine onSuccess_eq_ok fun _ passed => onSuccess_eq_ok fun _ _ => ?_
  exact checkNegativeSigns_eq (checkCharacters_eq_ok_iff.mp passed).1

/-! ## Scanning -/

/-- The position behind the digits that stand from a position on. -/
def endOfDigits (text : List Char) (start : Nat) : Nat :=
  if inside : start < text.length then
    if text[start].isDigit then endOfDigits text (start + 1) else start
  else start
termination_by text.length - start

/-- Scans an amount: the characters from its sign to the end of its digits are cut out and read. -/
def scan (text : List Char) (start : Nat) : Guarded (Except Fault (Int64 × Nat)) := do
  let first := start + signWidth text start
  let stop := endOfDigits text first
  if stop = first then return .error (.danglingShiftOperator (start - 1))
  else
    let literal ← slice text start stop
    match (Literal.ofFront literal).amount? with
    | some amount => return .ok (amount, stop)
    | none => return .error (.shiftAmountOutOfRange start)

theorem endOfDigits_eq (text : List Char) (start : Nat) :
    endOfDigits text start = start + (digitsAt text start).length := by
  induction start using endOfDigits.induct text with
  | case1 start inside digit ih =>
      rw [endOfDigits, dif_pos inside, if_pos digit, ih,
        digitsAt_of_digit (List.getElem?_eq_getElem inside) digit, List.length_cons]
      omega
  | case2 start inside noDigit =>
      rw [endOfDigits, dif_pos inside, if_neg noDigit, digitsAt_of_noDigit]
      · rfl
      · simpa [inside] using noDigit
  | case3 start outside =>
      rw [endOfDigits, dif_neg outside, digitsAt_of_noDigit]
      · rfl
      · simp [List.getElem?_eq_none (Nat.le_of_not_lt outside)]

/-- Where an amount has digits, cutting it out stays inside the text. -/
theorem slice_amount {text : List Char} {start : Nat}
    (nonempty : (Literal.ofFront (text.drop start)).digits ≠ []) :
    slice text start (start + (Literal.ofFront (text.drop start)).length) =
      .ok (Literal.ofFront (text.drop start)).chars := by
  have pos : 0 < (Literal.ofFront (text.drop start)).length :=
    Nat.lt_add_left _ (List.length_pos_iff.mpr nonempty)
  have rest_le := Literal.length_ofFront_le (text.drop start)
  rw [List.length_drop] at rest_le
  rw [slice_of_le (by omega) (by omega), List.drop_take, Nat.add_sub_cancel_left,
    Literal.take_length_ofFront]

theorem scan_eq (text : List Char) (start : Nat) :
    scan text start = .ok (scanAmount text start) := by
  have stop_eq : endOfDigits text (start + signWidth text start) =
      start + (Literal.ofFront (text.drop start)).length := by
    rw [endOfDigits_eq, Literal.length_ofFront_drop, Nat.add_assoc]
  have stays_iff : start + (Literal.ofFront (text.drop start)).length =
      start + signWidth text start ↔ (Literal.ofFront (text.drop start)).digits = [] := by
    rw [Literal.length_ofFront_drop, ← Nat.add_assoc, Nat.add_eq_left, List.length_eq_zero_iff,
      Literal.ofFront_drop]
  -- the loop over the digits and the literal at the front of the rest end at one position
  rw [scan, stop_eq, scanAmount, readAmount]
  by_cases empty : (Literal.ofFront (text.drop start)).digits = []
  · rw [if_pos (stays_iff.mpr empty), Cursor.ofPosition, if_pos empty]
    rfl
  · rw [if_neg (mt stays_iff.mp empty), Cursor.ofPosition, if_neg empty, slice_amount empty,
      ok_bind, Literal.ofFront_chars]
    cases (Literal.ofFront (text.drop start)).amount? <;> rfl

/-! ## Reading -/

/-- How far the reading has come: the position, and the operations in front of it. -/
structure Progress where
  position : Nat
  operations : List Operation
  deriving DecidableEq

def turn (text : List Char) (progress : Progress) : Guarded (Except Fault Progress) := do
  let c ← get text progress.position
  let next := progress.position + 1
  if c = 'H' then return .ok ⟨next, progress.operations ++ [.horizontalFlip]⟩
  else if c = 'V' then return .ok ⟨next, progress.operations ++ [.verticalFlip]⟩
  else if c = 'S' then
    onSuccess (← scan text next) fun (amount, stop) =>
      return .ok ⟨stop, progress.operations ++ [.rotate amount]⟩
  else return .ok ⟨next, progress.operations⟩

/-- The loop, for no more than a number of turns.  There is no result if it goes on by then. -/
def run (text : List Char) : Nat → Progress → Guarded (Option (Except Fault (List Operation)))
  | 0, progress =>
      return if progress.position < text.length then none else some (.ok progress.operations)
  | turns + 1, progress =>
      if progress.position < text.length then do
        match ← turn text progress with
        | .error fault => return some (.error fault)
        | .ok next => run text turns next
      else return some (.ok progress.operations)

/-- Checks a cipher and reads it, with one turn at most for each character. -/
def operations (cipher : String) : Guarded (Option (Except Fault (List Operation))) := do
  match ← check cipher.toList with
  | .error fault => return some (.error fault)
  | .ok () => run cipher.toList cipher.length ⟨0, []⟩

variable {text : List Char} {position : Nat} {c : Char}

/-- A turn by position is a turn on what is left of the text. -/
theorem turn_eq (here : text[position]? = some c) (before : List Operation) :
    turn text ⟨position, before⟩ =
      .ok ((Cipher.turn c (Cursor.ofPosition text (position + 1))).map fun result =>
        ⟨result.2.position, before ++ result.1.toList⟩) := by
  rw [turn, get_of_getElem? here, ok_bind]
  by_cases shift : c = 'S'
  · subst shift
    simp only [Cipher.turn, scan_eq, scanAmount, ok_bind]
    cases readAmount (Cursor.ofPosition text (position + 1)) <;> rfl
  · -- without an amount there is nothing that could fail
    rw [Cipher.turn]
    split_ifs <;> simp [Cursor.ofPosition, Except.map]

/-- The cursor stands on the text, behind a position. -/
structure Beyond (text : List Char) (position : Nat) (cursor : Cursor) : Prop where
  synced : Cursor.ofPosition text cursor.position = cursor
  later : position < cursor.position
  le_length : cursor.position ≤ text.length

theorem advance_ofPosition (text : List Char) (position count : Nat) :
    (Cursor.ofPosition text position).advance count =
      Cursor.ofPosition text (position + count) := by
  simp [Cursor.advance, Cursor.ofPosition, List.drop_drop]

theorem beyond_of_turn_eq_ok {said : Option Operation} {next : Cursor}
    (inside : position < text.length)
    (turned : Cipher.turn c (Cursor.ofPosition text (position + 1)) = .ok (said, next)) :
    Beyond text position next := by
  have behind : Beyond text position (Cursor.ofPosition text (position + 1)) :=
    ⟨rfl, Nat.lt_succ_self position, inside⟩
  rcases turn_eq_ok turned with ⟨_, _, rfl⟩ | ⟨_, _, rfl⟩ | ⟨_, amount, _, read⟩ | ⟨_, _, rfl⟩
  · exact behind
  · exact behind
  · obtain ⟨_, _, rfl⟩ := readAmount_eq_ok_iff.mp read
    rw [advance_ofPosition]
    -- the amount is a piece of what is left of the text
    have amount_le := Literal.length_ofFront_le (text.drop (position + 1))
    rw [List.length_drop] at amount_le
    refine ⟨rfl, ?_, ?_⟩ <;> simp only [Cursor.ofPosition] <;> omega
  · exact behind

/-- In a well placed text only an amount that is too large ends the reading. -/
theorem fault_of_turn_eq_error (placed : WellPlaced text) (here : text[position]? = some c)
    {fault : Fault}
    (failed : Cipher.turn c (Cursor.ofPosition text (position + 1)) = .error fault) :
    fault = .shiftAmountOutOfRange (position + 1) := by
  by_cases shift : c = 'S'
  · subst shift
    obtain ⟨inside, letter⟩ := List.getElem?_eq_some_iff.mp here
    have behind : WellPlaced ('S' :: text.drop (position + 1)) := by
      rw [← List.take_append_drop position text, List.drop_eq_getElem_cons inside, letter] at placed
      exact placed.of_append_right
    rw [Cursor.ofPosition, turn_shift behind] at failed
    cases amount : (Literal.ofFront (text.drop (position + 1))).amount? with
    | none => simpa [amount] using failed.symm
    | some _ => simp [amount] at failed
  · obtain ⟨said, turned⟩ := turn_of_ne_shift shift
    rw [turned] at failed
    cases failed

/-- From every position of a checked cipher a turn is safe and moves on. -/
theorem turn_safe {cipher : String} (passed : Cipher.check cipher = .ok ()) {progress : Progress}
    (inside : progress.position < cipher.length) :
    ∃ result, turn cipher.toList progress = .ok result ∧
      (∀ next, result = .ok next →
        progress.position < next.position ∧ next.position ≤ cipher.length) ∧
      ∀ fault, result = .error fault → fault = .shiftAmountOutOfRange (progress.position + 1) := by
  obtain ⟨position, before⟩ := progress
  rw [← String.length_toList] at inside ⊢
  have placed : WellPlaced cipher.toList := (checkChars_eq_ok_iff.mp passed).2.1
  have here := List.getElem?_eq_getElem inside
  rw [turn_eq here]
  cases turned : Cipher.turn _ (Cursor.ofPosition cipher.toList (position + 1)) with
  | error fault =>
      refine ⟨.error fault, rfl, ?_, ?_⟩
      · rintro _ ⟨⟩
      · rintro _ ⟨⟩
        exact fault_of_turn_eq_error placed here turned
  | ok result =>
      have beyond := beyond_of_turn_eq_ok inside turned
      refine ⟨.ok _, rfl, ?_, ?_⟩
      · rintro _ ⟨⟩
        exact ⟨beyond.later, beyond.le_length⟩
      · rintro _ ⟨⟩

theorem readOperations_ofPosition_length (text : List Char) :
    readOperations (Cursor.ofPosition text text.length) = .ok [] := by
  rw [Cursor.ofPosition, List.drop_length, readOperations]

theorem readOperations_ofPosition (here : text[position]? = some c) :
    readOperations (Cursor.ofPosition text position) = (do
      let (said, next) ← Cipher.turn c (Cursor.ofPosition text (position + 1))
      let operations ← readOperations next
      return said.toList ++ operations) := by
  obtain ⟨inside, rfl⟩ := List.getElem?_eq_some_iff.mp here
  rw [Cursor.ofPosition, List.drop_eq_getElem_cons inside, readOperations_cons]
  rfl

/-- The loop reads what the recursion on the rest of the text reads, in as many turns as there are
characters left. -/
theorem run_eq {turns : Nat} (within : position ≤ text.length)
    (enough : text.length ≤ position + turns) (before : List Operation) :
    run text turns ⟨position, before⟩ =
      .ok (some ((readOperations (Cursor.ofPosition text position)).map (before ++ ·))) := by
  induction turns generalizing position before with
  | zero =>
      obtain rfl : position = text.length := Nat.le_antisymm within enough
      simp [run, readOperations_ofPosition_length, Except.map]
  | succ turns ih =>
      rcases Nat.lt_or_eq_of_le within with inside | rfl
      · have here := List.getElem?_eq_getElem inside
        rw [run, if_pos inside, turn_eq here, ok_bind, readOperations_ofPosition here]
        cases turned : Cipher.turn text[position] (Cursor.ofPosition text (position + 1)) with
        | error fault => rfl
        | ok result =>
            obtain ⟨said, next⟩ := result
            obtain ⟨synced, later, le_length⟩ := beyond_of_turn_eq_ok inside turned
            -- the position has grown, so one turn less is enough for the rest
            refine (ih le_length (by omega) (before ++ said.toList)).trans ?_
            rw [synced]
            cases rest : readOperations next with
            | error fault => simp [rest, Except.map]
            | ok operations => simp [rest, Except.map]
      · simp [run, readOperations_ofPosition_length, Except.map]

theorem operations_eq (cipher : String) :
    operations cipher = .ok (some (Cipher.operations cipher)) := by
  rw [operations, check_eq, ok_bind, Cipher.operations, Cipher.check]
  cases checkChars cipher.toList with
  | error fault => rfl
  | ok _ =>
      change run cipher.toList cipher.length ⟨0, []⟩ =
        .ok (some (readOperations (Cursor.ofPosition cipher.toList 0)))
      rw [← String.length_toList, run_eq (Nat.zero_le _) (Nat.le_add_left _ 0)]
      cases readOperations (Cursor.ofPosition cipher.toList 0) <;> rfl

end LayoutCipher.Guarded
