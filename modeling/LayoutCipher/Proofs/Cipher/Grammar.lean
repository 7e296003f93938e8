import LayoutCipher.Proofs.Cipher.Passes
import Mathlib.Data.List.Basic

/-!
# The grammar of ciphers

The passes accept one small language: texts put together from letters, digits, digits with a sign
and shift operators with the first digit of their amount, where no sign comes first.
-/

namespace LayoutCipher.Cipher

abbrev Digit := {c : Char // c.isDigit}

/-- The pieces that ciphers are put together from. -/
inductive Token where
  | horizontalFlip
  | verticalFlip
  | digit (d : Digit)
  | signedDigit (d : Digit)
  | shift (d : Digit)
  | signedShift (d : Digit)
  deriving DecidableEq

def Token.chars : Token → List Char
  | .horizontalFlip => ['H']
  | .verticalFlip => ['V']
  | .digit d => [d.val]
  | .signedDigit d => ['-', d.val]
  | .shift d => ['S', d.val]
  | .signedShift d => ['S', '-', d.val]

/-! ## Tokens are well placed -/

theorem wellPlaced_digit (d : Digit) : WellPlaced [d.val] :=
  .of_digits (by simpa using d.property)

theorem Token.wellPlaced_chars (token : Token) : WellPlaced token.chars := by
  cases token with
  | horizontalFlip => exact .cons rfl nofun nofun .nil
  | verticalFlip => exact .cons rfl nofun nofun .nil
  | digit d => exact wellPlaced_digit d
  | signedDigit d => exact .sign_cons d.property (wellPlaced_digit d)
  | shift d =>
      exact .shift_cons (startsWithAmount_of_startsWithDigit d.property) (wellPlaced_digit d)
  | signedShift d => exact .shift_cons rfl (.sign_cons d.property (wellPlaced_digit d))

theorem wellPlaced_flatMap_tokens (tokens : List Token) :
    WellPlaced (tokens.flatMap Token.chars) := by
  induction tokens with
  | nil => exact .nil
  | cons token rest ih => exact token.wellPlaced_chars.append ih

theorem head?_flatMap_tokens_eq_sign_iff (tokens : List Token) :
    (tokens.flatMap Token.chars).head? = some '-' ↔
      ∃ d, tokens.head? = some (.signedDigit d) := by
  cases tokens with
  | nil => simp
  | cons token rest =>
      cases token with
      | digit d =>
          have noSign : d.val ≠ '-' := by
            intro sign
            have digit := d.property
            rw [sign] at digit
            cases digit
          simp [Token.chars, noSign]
      | horizontalFlip | verticalFlip | signedDigit _ | shift _ | signedShift _ =>
          simp [Token.chars]

/-! ## Well placed texts have tokens -/

theorem exists_digit_of_startsWithDigit {text : List Char} (opens : startsWithDigit text) :
    ∃ (d : Digit) (rest : List Char), text = d.val :: rest := by
  cases text with
  | nil => cases opens
  | cons c rest => exact ⟨⟨c, opens⟩, rest, rfl⟩

/-- A token can be taken from the front of every well placed text. -/
theorem WellPlaced.exists_token {c : Char} {rest : List Char} (placed : WellPlaced (c :: rest)) :
    ∃ (token : Token) (after : List Char), c :: rest = token.chars ++ after := by
  cases placed with
  | cons legal shift sign placed =>
      have kinds : (((c = 'H' ∨ c = 'V') ∨ c = 'S') ∨ c = '-') ∨ c.isDigit := by
        simpa [isCipherCharacter] using legal
      obtain (((rfl | rfl) | rfl) | rfl) | digit := kinds
      · exact ⟨.horizontalFlip, rest, rfl⟩
      · exact ⟨.verticalFlip, rest, rfl⟩
      · -- a shift operator takes the sign behind it into its token, so the digit is the third
        cases placed with
        | nil => cases shift rfl
        | @cons next after _ _ digitBehind _ =>
            have amount : next.isDigit ∨ next = '-' := by
              simpa [startsWithAmount] using shift rfl
            obtain digit | rfl := amount
            · exact ⟨.shift ⟨next, digit⟩, after, rfl⟩
            · obtain ⟨d, after, rfl⟩ := exists_digit_of_startsWithDigit (digitBehind rfl)
              exact ⟨.signedShift d, after, rfl⟩
      · obtain ⟨d, after, rfl⟩ := exists_digit_of_startsWithDigit (sign rfl)
        exact ⟨.signedDigit d, after, rfl⟩
      · exact ⟨.digit ⟨c, digit⟩, rest, rfl⟩

theorem Token.length_chars_pos (token : Token) : 0 < token.chars.length := by
  cases token <;> exact Nat.succ_pos _

theorem WellPlaced.exists_tokens : ∀ {text : List Char}, WellPlaced text →
    ∃ tokens : List Token, text = tokens.flatMap Token.chars
  | [], _ => ⟨[], rfl⟩
  | c :: rest, placed => by
      obtain ⟨token, after, front⟩ := placed.exists_token
      have shorter : after.length < (c :: rest).length := by
        rw [front, List.length_append]
        have := token.length_chars_pos
        omega
      obtain ⟨tokens, rfl⟩ := exists_tokens (front ▸ placed).of_append_right
      exact ⟨token :: tokens, front⟩
termination_by text => text.length
decreasing_by exact shorter

/-! ## Ciphers -/

/-- The passes accept exactly the sequences of tokens that are not empty and open with no sign, and
so whatever is put together from accepted texts. -/
theorem outcome_validate_eq_ok_iff :
    (∀ cipher : String, (validate cipher).outcome = .ok () ↔
      ∃ tokens : List Token, tokens ≠ [] ∧ (∀ d, tokens.head? ≠ some (.signedDigit d)) ∧
        cipher.toList = tokens.flatMap Token.chars) ∧
    ∀ first second : String, (validate first).outcome = .ok () →
      (validate second).outcome = .ok () → (validate (first ++ second)).outcome = .ok () := by
  simp only [outcome_validate, check, checkChars_eq_ok_iff]
  constructor
  · intro cipher
    constructor
    · rintro ⟨nonempty, placed, head⟩
      obtain ⟨tokens, text⟩ := placed.exists_tokens
      refine ⟨tokens, ?_, ?_, text⟩
      · rintro rfl
        exact nonempty text
      · intro d opens
        exact head (text ▸ (head?_flatMap_tokens_eq_sign_iff tokens).mpr ⟨d, opens⟩)
    · rintro ⟨tokens, nonempty, head, text⟩
      rw [text]
      refine ⟨?_, wellPlaced_flatMap_tokens tokens, ?_⟩
      · cases tokens with
        | nil => exact absurd rfl nonempty
        | cons token rest => cases token <;> simp [Token.chars]
      · intro sign
        obtain ⟨d, opens⟩ := (head?_flatMap_tokens_eq_sign_iff tokens).mp sign
        exact head d opens
  · rintro first second ⟨nonempty, left, head⟩ ⟨_, right, _⟩
    rw [String.toList_append, List.head?_append_of_ne_nil _ nonempty]
    exact ⟨List.append_ne_nil_of_left_ne_nil nonempty _, left.append right, head⟩

/-- A digit may open a cipher, and a sign with its digit may stand behind a letter. -/
theorem outcome_validate_eq_ok_iff_stray :
    (validate "2V-5").outcome = .ok () ∧ (validate "S-1H").outcome = .ok () ∧
      (validate ("2V-5" ++ "S-1H")).outcome = .ok () := by
  have first : (validate "2V-5").outcome = .ok () := rfl
  have second : (validate "S-1H").outcome = .ok () := rfl
  exact ⟨first, second, outcome_validate_eq_ok_iff.2 _ _ first second⟩

end LayoutCipher.Cipher
