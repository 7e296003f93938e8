import LayoutCipher.Cipher.Parse

/-!
# What the passes accept

The three passes look at different characters.  `WellPlaced` says character by character what the
last two of them and the first ask for together: a legal character, and behind a letter `S` or a
sign what has to stand there.  A checked cipher is a well placed text that is not empty and opens
with no sign.
-/

namespace LayoutCipher.Cipher

/-! ## Well placed texts -/

/-- Every character is legal, every shift operator has an amount and every sign a digit behind
it. -/
inductive WellPlaced : List Char → Prop where
  | nil : WellPlaced []
  | cons {c : Char} {rest : List Char} (legal : isCipherCharacter c)
      (shift : c = 'S' → startsWithAmount rest) (sign : c = '-' → startsWithDigit rest)
      (placed : WellPlaced rest) : WellPlaced (c :: rest)

theorem startsWithDigit_append {first : List Char} (opens : startsWithDigit first)
    (second : List Char) : startsWithDigit (first ++ second) := by
  cases first with
  | nil => cases opens
  | cons c rest => exact opens

theorem startsWithAmount_append {first : List Char} (opens : startsWithAmount first)
    (second : List Char) : startsWithAmount (first ++ second) := by
  cases first with
  | nil => cases opens
  | cons c rest => exact opens

theorem startsWithAmount_of_startsWithDigit {text : List Char} (opens : startsWithDigit text) :
    startsWithAmount text := by
  cases text with
  | nil => cases opens
  | cons c rest =>
      have digit : c.isDigit := opens
      simp [startsWithAmount, digit]

namespace WellPlaced

theorem sign_cons {rest : List Char} (opens : startsWithDigit rest) (placed : WellPlaced rest) :
    WellPlaced ('-' :: rest) :=
  .cons rfl nofun (fun _ => opens) placed

theorem shift_cons {rest : List Char} (opens : startsWithAmount rest) (placed : WellPlaced rest) :
    WellPlaced ('S' :: rest) :=
  .cons rfl (fun _ => opens) nofun placed

theorem append {first second : List Char} (left : WellPlaced first) (right : WellPlaced second) :
    WellPlaced (first ++ second) := by
  induction left with
  | nil => exact right
  | cons legal shift sign _ ih =>
      -- what a character needs behind it, it keeps when the text goes on
      exact .cons legal (fun isShift => startsWithAmount_append (shift isShift) second)
        (fun isSign => startsWithDigit_append (sign isSign) second) ih

theorem of_append_right {first second : List Char} (placed : WellPlaced (first ++ second)) :
    WellPlaced second := by
  induction first with
  | nil => exact placed
  | cons c rest ih =>
      cases placed with
      | cons _ _ _ placed => exact ih placed

theorem of_digits {digits : List Char} (all : ∀ c ∈ digits, c.isDigit) : WellPlaced digits := by
  induction digits with
  | nil => exact .nil
  | cons c rest ih =>
      have digit : c.isDigit := all c List.mem_cons_self
      -- a digit is neither the letter nor the sign that asks for something behind it
      refine .cons (by simp [isCipherCharacter, digit]) ?_ ?_
        (ih fun other mem => all other (List.mem_cons_of_mem c mem))
      · rintro rfl
        cases digit
      · rintro rfl
        cases digit

theorem getLast?_ne_sign {text : List Char} (placed : WellPlaced text) :
    text.getLast? ≠ some '-' := by
  induction placed with
  | nil => simp
  | @cons c rest _ _ sign _ ih =>
      cases rest with
      | nil =>
          -- nothing follows the last character, so a sign there would have no digit
          intro last
          obtain rfl : c = '-' := by simpa using last
          cases sign rfl
      | cons next after => simpa using ih

end WellPlaced

/-! ## Passes -/

theorem firstSuffix?_cons_of_false {p : List Char → Bool} {c : Char} {rest : List Char}
    (skipped : p (c :: rest) = false) :
    firstSuffix? p (c :: rest) = (firstSuffix? p rest).map (· + 1) := by
  simp [firstSuffix?, skipped]

theorem firstSuffix?_cons_eq_none_iff {p : List Char → Bool} {c : Char} {rest : List Char} :
    firstSuffix? p (c :: rest) = none ↔ p (c :: rest) = false ∧ firstSuffix? p rest = none := by
  cases found : p (c :: rest) <;> simp [firstSuffix?, found]

theorem wellPlaced_iff {text : List Char} :
    WellPlaced text ↔ (∀ c ∈ text, isCipherCharacter c) ∧
      firstSuffix? isDanglingShift text = none ∧ firstSuffix? isStraySign text = none := by
  induction text with
  | nil => simp [WellPlaced.nil, firstSuffix?]
  | cons c rest ih =>
      rw [firstSuffix?_cons_eq_none_iff, firstSuffix?_cons_eq_none_iff]
      simp only [isDanglingShift, isStraySign, Bool.and_eq_false_imp, decide_eq_true_eq,
        Bool.not_eq_false', List.mem_cons, forall_eq_or_imp]
      constructor
      · intro placed
        cases placed with
        | cons legal shift sign placed =>
            obtain ⟨all, noDangling, noStray⟩ := ih.mp placed
            exact ⟨⟨legal, all⟩, ⟨shift, noDangling⟩, sign, noStray⟩
      · rintro ⟨⟨legal, all⟩, ⟨shift, noDangling⟩, sign, noStray⟩
        exact .cons legal shift sign (ih.mpr ⟨all, noDangling, noStray⟩)

theorem find?_zipIdx_eq_none_iff {α : Type} {p : α → Bool} {entries : List α} :
    entries.zipIdx.find? (fun entry => p entry.1) = none ↔ ∀ a ∈ entries, p a = false := by
  simp only [List.find?_eq_none, Bool.not_eq_true]
  constructor
  · intro none a mem
    obtain ⟨position, inside, rfl⟩ := List.getElem_of_mem mem
    have listed : (entries[position], position) ∈ entries.zipIdx :=
      List.mk_mem_zipIdx_iff_getElem?.mpr (List.getElem?_eq_getElem inside)
    exact none _ listed
  · intro none entry listed
    exact none entry.1 (List.fst_mem_of_mem_zipIdx listed)

theorem checkCharacters_eq_ok_iff {cipher : List Char} :
    checkCharacters cipher = .ok () ↔ cipher ≠ [] ∧ ∀ c ∈ cipher, isCipherCharacter c := by
  unfold checkCharacters
  by_cases isEmpty : cipher = []
  · simp [isEmpty]
  · have legal : cipher.zipIdx.find? (fun entry => !isCipherCharacter entry.1) = none ↔
        ∀ c ∈ cipher, isCipherCharacter c := by
      simpa using find?_zipIdx_eq_none_iff (p := fun c => !isCipherCharacter c)
    rw [if_neg isEmpty]
    split
    · next found =>
        refine iff_of_false nofun ?_
        rintro ⟨_, all⟩
        cases found.symm.trans (legal.mpr all)
    · next found => exact iff_of_true rfl ⟨isEmpty, legal.mp found⟩

theorem checkShiftOperators_eq_ok_iff {cipher : List Char} :
    checkShiftOperators cipher = .ok () ↔ firstSuffix? isDanglingShift cipher = none := by
  unfold checkShiftOperators
  cases firstSuffix? isDanglingShift cipher <;> simp

theorem checkNegativeSigns_eq_ok_iff {cipher : List Char} :
    checkNegativeSigns cipher = .ok () ↔ cipher.head? ≠ some '-' ∧
      cipher.getLast? ≠ some '-' ∧ firstSuffix? isStraySign cipher = none := by
  unfold checkNegativeSigns
  by_cases first : cipher.head? = some '-'
  · simp [first]
  · by_cases last : cipher.getLast? = some '-'
    · simp [first, last]
    · cases firstSuffix? isStraySign cipher <;> simp [first, last]

theorem bind_eq_ok_iff {ε : Type} {first second : Except ε Unit} :
    (first >>= fun _ => second) = .ok () ↔ first = .ok () ∧ second = .ok () := by
  cases first <;> simp [bind, Except.bind]

/-- The passes together accept the well placed texts that are not empty and open with no sign. -/
theorem checkChars_eq_ok_iff {cipher : List Char} :
    checkChars cipher = .ok () ↔
      cipher ≠ [] ∧ WellPlaced cipher ∧ cipher.head? ≠ some '-' := by
  rw [checkChars, bind_eq_ok_iff, bind_eq_ok_iff, checkCharacters_eq_ok_iff,
    checkShiftOperators_eq_ok_iff, checkNegativeSigns_eq_ok_iff, wellPlaced_iff]
  constructor
  · rintro ⟨⟨nonempty, all⟩, noDangling, head, _, noStray⟩
    exact ⟨nonempty, ⟨all, noDangling, noStray⟩, head⟩
  · rintro ⟨nonempty, placed, head⟩
    -- that no sign comes last is not a rule of its own: the third pass only names it first
    have last := (wellPlaced_iff.mpr placed).getLast?_ne_sign
    obtain ⟨all, noDangling, noStray⟩ := placed
    exact ⟨⟨nonempty, all⟩, noDangling, head, last, noStray⟩

end LayoutCipher.Cipher
