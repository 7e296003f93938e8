import LayoutCipher.Json.Printer
import LayoutCipher.Json.Reader
import Mathlib.Data.List.TakeWhile

/-!
# Literals of JSON

A string or an integer is read back from the text it is written as, whatever follows it.  A string
ends with a quote, so anything may follow; an integer ends where its digits do, so what follows
must not go on with a number.
-/

namespace LayoutCipher

/-! ## Digits of base 16 -/

theorem Hexadecimal.value?_digit {n : Nat} (small : n < 16) : value? (digit n) = some n := by
  have digits : ∀ m < 16, value? (digit m) = some m := by decide
  exact digits n small

/-- A byte is written by two digits. -/
theorem Hexadecimal.number?_byte {n : Nat} (small : n < 0x100) :
    number? ['0', '0', digit (n / 16), digit (n % 16)] = some n := by
  have zero : value? '0' = some 0 := by decide
  have high : value? (digit (n / 16)) = some (n / 16) := value?_digit (by omega)
  have low : value? (digit (n % 16)) = some (n % 16) := value?_digit (by omega)
  simp only [number?, List.foldlM_cons, List.foldlM_nil, zero, high, low, Option.map_some,
    Option.bind_eq_bind, Option.bind_some, Option.pure_def, Option.some.injEq]
  omega

namespace Json

namespace Reader

variable {surrogates : Surrogates}

/-! ## Strings -/

/-- A control character is written by its code. -/
theorem unicodeEscape?_control {c : Char} (control : c.toNat < 0x20) (rest : List Char) :
    unicodeEscape? surrogates
        ('0' :: '0' :: Hexadecimal.digit (c.toNat / 16) :: Hexadecimal.digit (c.toNat % 16) :: rest)
      = some (c, rest) := by
  have unit : codeUnit? ('0' :: '0' :: Hexadecimal.digit (c.toNat / 16) ::
      Hexadecimal.digit (c.toNat % 16) :: rest) = some (c.toNat, rest) := by
    simp [codeUnit?, Hexadecimal.number?_byte (show c.toNat < 0x100 by omega)]
  have notHigh : isHighSurrogate c.toNat = false := by simp [isHighSurrogate]; omega
  have notLow : isLowSurrogate c.toNat = false := by simp [isLowSurrogate]; omega
  simp [unicodeEscape?, unit, notHigh, notLow]

/-- A character of a string stands for itself, unless it would end the string, open an escape or
be refused; then an escape that is read as the character stands for it. -/
theorem escapeChar_cases (c : Char) :
    (escapeChar c = [c] ∧ c ≠ '"' ∧ c ≠ '\\' ∧ ¬ c.toNat < 0x20) ∨
      ∃ escape, escapeChar c = '\\' :: escape ∧
        ∀ surrogates rest, escape? surrogates (escape ++ rest) = some (c, rest) := by
  unfold escapeChar
  split
  · next quote =>
      subst quote
      exact .inr ⟨['"'], rfl, fun _ _ => rfl⟩
  split
  · next backslash =>
      subst backslash
      exact .inr ⟨['\\'], rfl, fun _ _ => rfl⟩
  split
  · next backspace =>
      subst backspace
      exact .inr ⟨['b'], rfl, fun _ _ => rfl⟩
  split
  · next formFeed =>
      subst formFeed
      exact .inr ⟨['f'], rfl, fun _ _ => rfl⟩
  split
  · next lineFeed =>
      subst lineFeed
      exact .inr ⟨['n'], rfl, fun _ _ => rfl⟩
  split
  · next carriageReturn =>
      subst carriageReturn
      exact .inr ⟨['r'], rfl, fun _ _ => rfl⟩
  split
  · next tab =>
      subst tab
      exact .inr ⟨['t'], rfl, fun _ _ => rfl⟩
  split
  -- the control characters that have no letter of their own
  · next control => exact .inr ⟨_, rfl, fun _ rest => unicodeEscape?_control control rest⟩
  · next notQuote notBackslash _ _ _ _ _ notControl =>
      exact .inl ⟨rfl, notQuote, notBackslash, notControl⟩

theorem escapeChar_ne_nil (c : Char) : escapeChar c ≠ [] := by
  rcases escapeChar_cases c with ⟨plain, _⟩ | ⟨_, escaped, _⟩
  · rw [plain]
    exact List.cons_ne_nil _ _
  · rw [escaped]
    exact List.cons_ne_nil _ _

/-- One step of reading a string takes one written character off. -/
theorem stringBody?_escapeChar (bound : Nat) (c : Char) (rest : List Char) :
    stringBody? surrogates (bound + 1) (escapeChar c ++ rest) =
      (stringBody? surrogates bound rest).map (Prod.map (c :: ·) id) := by
  rcases escapeChar_cases c with ⟨plain, notQuote, notBackslash, notControl⟩ |
    ⟨escape, escaped, read⟩
  · rw [plain, List.singleton_append, stringBody?, if_neg notQuote, if_neg notBackslash,
      if_neg notControl]
    cases stringBody? surrogates bound rest <;> rfl
  · have notQuote : ('\\' : Char) ≠ '"' := by decide
    rw [escaped, List.cons_append, stringBody?, if_neg notQuote, if_pos rfl, read surrogates rest]
    simp only [Option.bind_eq_bind, Option.bind_some]
    cases stringBody? surrogates bound rest <;> rfl

theorem stringBody?_flatMap_escapeChar (chars rest : List Char) {bound : Nat}
    (enough : (chars.flatMap escapeChar).length < bound) :
    stringBody? surrogates bound (chars.flatMap escapeChar ++ '"' :: rest) =
      some (chars, rest) := by
  induction chars generalizing bound with
  | nil =>
      obtain ⟨bound, rfl⟩ := Nat.exists_eq_succ_of_ne_zero (Nat.ne_zero_of_lt enough)
      rfl
  | cons c chars ih =>
      obtain ⟨bound, rfl⟩ := Nat.exists_eq_succ_of_ne_zero (Nat.ne_zero_of_lt enough)
      have written : 0 < (escapeChar c).length := List.length_pos_iff.mpr (escapeChar_ne_nil c)
      rw [List.flatMap_cons, List.length_append] at enough
      rw [List.flatMap_cons, List.append_assoc, stringBody?_escapeChar, ih (by omega)]
      rfl

theorem string?_stringChars (s : String) (rest : List Char) :
    string? surrogates (stringChars s ++ rest) = some (s, rest) := by
  have body : stringChars s ++ rest = '"' :: (s.toList.flatMap escapeChar ++ '"' :: rest) := by
    simp [stringChars]
  have enough : (s.toList.flatMap escapeChar).length <
      (s.toList.flatMap escapeChar ++ '"' :: rest).length + 1 := by
    rw [List.length_append]
    omega
  rw [body, string?, stringBody?_flatMap_escapeChar s.toList rest enough]
  simp

/-! ## Integers -/

/-- The first character of an integer is a sign or a digit. -/
theorem exists_ofInt_eq_cons (n : Int) :
    ∃ c digits, Decimal.ofInt n = c :: digits ∧ (c = '-' ∨ c.isDigit) := by
  unfold Decimal.ofInt
  split
  · exact ⟨'-', _, rfl, .inl rfl⟩
  · obtain ⟨c, digits, written⟩ := List.exists_cons_of_ne_nil (Decimal.ofNat_ne_nil n.natAbs)
    exact ⟨c, digits, written,
      .inr (Decimal.isDigit_of_mem_ofNat (written ▸ List.mem_cons_self))⟩

theorem isBlank_of_opensInteger {c : Char} (opens : c = '-' ∨ c.isDigit) : isBlank c = false := by
  simp only [isBlank, Bool.or_eq_false_iff, decide_eq_false_iff_not]
  refine ⟨⟨⟨?_, ?_⟩, ?_⟩, ?_⟩ <;> rintro rfl <;> revert opens <;> decide

/-- Whether a character could go on with a number. -/
def continuesNumber (c : Char) : Bool :=
  c.isDigit || c = '.' || c = 'e' || c = 'E'

/-- A text in front of which a number ends. -/
def EndsNumber (rest : List Char) : Prop :=
  ∀ c ∈ rest.head?, continuesNumber c = false

theorem endsNumber_nil : EndsNumber [] :=
  nofun

theorem endsNumber_cons {c : Char} {rest : List Char} :
    EndsNumber (c :: rest) ↔ continuesNumber c = false := by
  simp [EndsNumber]

variable {rest : List Char}

theorem EndsNumber.any_isDigit_head? (ends : EndsNumber rest) :
    rest.head?.any Char.isDigit = false := by
  cases rest with
  | nil => rfl
  | cons c rest =>
      have stops := endsNumber_cons.mp ends
      simp only [continuesNumber, Bool.or_eq_false_iff] at stops
      exact stops.1.1.1

theorem EndsNumber.takeWhile_isDigit (ends : EndsNumber rest) :
    rest.takeWhile Char.isDigit = [] := by
  cases rest with
  | nil => rfl
  | cons c rest =>
      exact List.takeWhile_cons_of_neg (Bool.eq_false_iff.mp ends.any_isDigit_head?)

theorem EndsNumber.dropWhile_isDigit (ends : EndsNumber rest) :
    rest.dropWhile Char.isDigit = rest := by
  cases rest with
  | nil => rfl
  | cons c rest =>
      exact List.dropWhile_cons_of_neg (Bool.eq_false_iff.mp ends.any_isDigit_head?)

theorem EndsNumber.fraction?_eq (ends : EndsNumber rest) : fraction? rest = some ([], rest) := by
  unfold fraction?
  split
  · cases endsNumber_cons.mp ends
  · rfl

theorem EndsNumber.exponent?_eq (ends : EndsNumber rest) : exponent? rest = some ([], rest) := by
  cases rest with
  | nil => rfl
  | cons c rest =>
      have stops := endsNumber_cons.mp ends
      simp only [continuesNumber, Bool.or_eq_false_iff] at stops
      have noLetter : (decide (c = 'e') || decide (c = 'E')) = false := by
        rw [stops.1.2, stops.2]
        rfl
      simp only [exponent?, noLetter, Bool.false_eq_true, if_false]

theorem digits?_append {digits : List Char} (nonempty : digits ≠ [])
    (all : ∀ c ∈ digits, c.isDigit) (ends : EndsNumber rest) :
    digits? (digits ++ rest) = some (digits, rest) := by
  rw [digits?, List.takeWhile_append_of_pos all, List.dropWhile_append_of_pos all,
    ends.takeWhile_isDigit, ends.dropWhile_isDigit, List.append_nil, if_neg nonempty]

theorem wholePart?_ofNat (n : Nat) (ends : EndsNumber rest) :
    wholePart? (Decimal.ofNat n ++ rest) = some (Decimal.ofNat n, rest) := by
  -- zero has a branch of its own, since no other number may open with its digit
  by_cases zero : n = 0
  · subst zero
    change (if rest.head?.any Char.isDigit then none else some (['0'], rest)) = _
    rw [ends.any_isDigit_head?]
    rfl
  · obtain ⟨c, digits, written⟩ := List.exists_cons_of_ne_nil (Decimal.ofNat_ne_nil n)
    have first := Decimal.head?_ofNat_ne_zero zero
    have read := digits?_append (Decimal.ofNat_ne_nil n) (fun _ => Decimal.isDigit_of_mem_ofNat)
      ends
    rw [written] at first read ⊢
    unfold wholePart?
    split
    · next opens =>
        cases opens
        exact absurd rfl first
    · exact read

theorem number?_ofInt (n : Int) (ends : EndsNumber rest) :
    number? (Decimal.ofInt n ++ rest) = some (.integer n, rest) := by
  have whole := wholePart?_ofNat n.natAbs ends
  by_cases negative : n < 0
  · have parts : numberOfParts true (Decimal.ofNat n.natAbs) [] [] = .integer n := by
      have nonzero : n.natAbs ≠ 0 := by omega
      simp only [numberOfParts, Decimal.value_ofNat, nonzero, and_false, not_false_eq_true,
        and_self, if_true, Json.integer.injEq]
      omega
    rw [Decimal.ofInt, if_pos negative]
    simp [number?, whole, ends.fraction?_eq, ends.exponent?_eq, parts]
  · have parts : numberOfParts false (Decimal.ofNat n.natAbs) [] [] = .integer n := by
      simp only [numberOfParts, Decimal.value_ofNat, Bool.false_eq_true, false_and,
        not_false_eq_true, and_self, if_true, if_false, Json.integer.injEq]
      omega
    rw [Decimal.ofInt, if_neg negative]
    obtain ⟨c, digits, written⟩ := List.exists_cons_of_ne_nil (Decimal.ofNat_ne_nil n.natAbs)
    have isDigit : c.isDigit :=
      Decimal.isDigit_of_mem_ofNat (n := n.natAbs) (written ▸ List.mem_cons_self)
    have unsigned : c ≠ '-' := by
      rintro rfl
      cases isDigit
    rw [written] at parts whole ⊢
    rw [List.cons_append] at whole ⊢
    simp [number?, whole, unsigned, ends.fraction?_eq, ends.exponent?_eq, parts]

end Reader

end Json

end LayoutCipher
