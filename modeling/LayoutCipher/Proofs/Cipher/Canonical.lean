import LayoutCipher.Proofs.Cipher.RoundTrip
import LayoutCipher.Proofs.Text.Decimal
import Mathlib.Data.Set.List

/-!
# Canonical ciphers

A cipher may say more than its operations: digits and signs that belong to no amount, leading
zeros, and a sign in front of zero.  Rendering what has been read drops just that, character by
character, and so the ciphers that stay as they are can be told without reading them.
-/

namespace LayoutCipher.Cipher

open Operation (render)

/-! ## What gets lost -/

theorem Literal.ofInt_value_sublist {literal : Literal} (nonempty : literal.digits ≠ [])
    (all : ∀ c ∈ literal.digits, c.isDigit) :
    (Decimal.ofInt literal.value).Sublist literal.chars := by
  have shortened := Decimal.ofNat_value_sublist nonempty all
  unfold Literal.value Literal.chars
  cases literal.negative with
  | false => simpa [Decimal.ofInt_natCast] using shortened
  | true =>
      rcases Nat.eq_zero_or_pos (Decimal.value literal.digits) with zero | pos
      · -- behind a sign that stands for nothing, zeros shrink to one
        rw [zero] at shortened
        rw [zero]
        exact shortened.cons '-'
      · simpa [Decimal.ofInt_neg_natCast pos] using shortened

theorem readAmount_sublist {cursor after : Cursor} {amount : Int64}
    (read : readAmount cursor = .ok (amount, after)) :
    ∃ written, cursor.rest = written ++ after.rest ∧
      (Decimal.ofInt amount.toInt).Sublist written := by
  obtain ⟨nonempty, fits, rfl⟩ := readAmount_eq_ok_iff.mp read
  refine ⟨_, (Literal.chars_append_drop cursor.rest).symm, ?_⟩
  rw [Operation.amountOfInt?_eq_some_iff.mp fits]
  exact Literal.ofInt_value_sublist nonempty fun _ => Literal.isDigit_of_mem_digits

/-- A turn uses up some characters, and the text of what it says is all of them or less. -/
theorem turn_sublist {c : Char} {after next : Cursor} {said : Option Operation}
    (turned : turn c after = .ok (said, next)) :
    ∃ written, c :: after.rest = written ++ next.rest ∧
      (said.toList.flatMap Operation.chars).Sublist written := by
  rcases turn_eq_ok turned with
    ⟨rfl, rfl, rfl⟩ | ⟨rfl, rfl, rfl⟩ | ⟨rfl, amount, rfl, read⟩ | ⟨_, rfl, rfl⟩
  · exact ⟨['H'], rfl, by simp [Operation.chars]⟩
  · exact ⟨['V'], rfl, by simp [Operation.chars]⟩
  · obtain ⟨written, front, shorter⟩ := readAmount_sublist read
    exact ⟨'S' :: written, congrArg _ front, by simpa [Operation.chars] using shorter⟩
  · exact ⟨[c], rfl, List.nil_sublist _⟩

/-- The texts of the operations that are read are the text that was read, less some characters. -/
theorem readOperations_sublist {cursor : Cursor} {operations : List Operation}
    (read : readOperations cursor = .ok operations) :
    (operations.flatMap Operation.chars).Sublist cursor.rest := by
  induction cursor using readOperations.induct generalizing operations with
  | case1 position =>
      rw [readOperations] at read
      cases read
      exact List.Sublist.refl _
  | case2 position c rest fault turned =>
      simp [readOperations_cons, turned, bind, Except.bind] at read
  | case3 position c rest said next turned fault failed ih =>
      simp [readOperations_cons, turned, failed, bind, Except.bind] at read
  | case4 position c rest said next turned later behind ih =>
      obtain ⟨written, front, shorter⟩ := turn_sublist turned
      obtain rfl : said.toList ++ later = operations := by
        simpa [readOperations_cons, turned, behind, bind, Except.bind, pure, Except.pure] using read
      rw [front, List.flatMap_append]
      exact shorter.append (ih behind)

/-! ## Canonical ciphers -/

/-- The texts of single operations: a letter, and behind the letter of a rotation the canonical
text of a signed word. -/
inductive CanonicalToken : List Char → Prop where
  | horizontalFlip : CanonicalToken ['H']
  | verticalFlip : CanonicalToken ['V']
  | rotate {number : List Char} (canonical : Decimal.Canonical number)
      (fits : FitsWord (numberAt number 0)) : CanonicalToken ('S' :: number)

/-- A canonical cipher is one or more canonical tokens. -/
def Canonical (text : List Char) : Prop :=
  ∃ tokens : List (List Char), tokens ≠ [] ∧ (∀ token ∈ tokens, CanonicalToken token) ∧
    text = tokens.flatten

theorem numberAt_ofInt (n : Int) : numberAt (Decimal.ofInt n) 0 = n := by
  rw [← Literal.value_ofFront_drop, List.drop_zero, Literal.value_ofFront_ofInt]

theorem canonicalToken_iff {token : List Char} :
    CanonicalToken token ↔ ∃ operation : Operation, operation.chars = token := by
  constructor
  · intro canonical
    cases canonical with
    | horizontalFlip => exact ⟨.horizontalFlip, rfl⟩
    | verticalFlip => exact ⟨.verticalFlip, rfl⟩
    | rotate canonical fits =>
        obtain ⟨n, rfl⟩ := Decimal.canonical_iff.mp canonical
        rw [numberAt_ofInt] at fits
        obtain ⟨amount, written⟩ := Option.ne_none_iff_exists'.mp
          (mt amountOfInt?_eq_none_iff.mp (not_not_intro fits))
        rw [← Operation.amountOfInt?_eq_some_iff.mp written]
        exact ⟨.rotate amount, rfl⟩
  · rintro ⟨operation, rfl⟩
    cases operation with
    | horizontalFlip => exact .horizontalFlip
    | verticalFlip => exact .verticalFlip
    | rotate amount =>
        refine .rotate (Decimal.canonical_ofInt _) ?_
        rw [numberAt_ofInt]
        exact fitsWord_toInt amount

/-- Exactly the canonical texts are rendered for lists of operations. -/
theorem canonical_iff {text : List Char} :
    Canonical text ↔ ∃ operations : List Operation, operations ≠ [] ∧
      operations.flatMap Operation.chars = text := by
  constructor
  · rintro ⟨tokens, nonempty, all, rfl⟩
    have listed : tokens ∈ Set.range (List.map Operation.chars) := by
      rw [Set.range_list_map]
      exact fun token mem => canonicalToken_iff.mp (all token mem)
    obtain ⟨operations, rfl⟩ := listed
    exact ⟨operations, by simpa using nonempty, List.flatMap_def⟩
  · rintro ⟨operations, nonempty, rfl⟩
    refine ⟨operations.map Operation.chars, by simpa using nonempty, ?_, List.flatMap_def⟩
    intro token mem
    obtain ⟨operation, _, rfl⟩ := List.mem_map.mp mem
    exact canonicalToken_iff.mpr ⟨operation, rfl⟩

theorem render_sublist {cipher : String} {operations : List Operation}
    (parsed : (parse cipher).outcome = .ok operations) :
    (render operations).toList.Sublist cipher.toList := by
  have checked := check_of_outcome_parse_eq_ok parsed
  rw [outcome_parse, Cipher.operations, checked] at parsed
  rw [render, String.toList_ofList]
  exact readOperations_sublist parsed

/-- Rendering the operations of a cipher that can be read drops characters of the cipher and adds
none, and gives another cipher for them if there are any.  It gives the same cipher exactly if that
is canonical: letters only, each `S` with the canonical text of an amount behind it. -/
theorem render_eq_iff_canonical {cipher : String} {operations : List Operation}
    (parsed : (parse cipher).outcome = .ok operations) :
    ((render operations).toList.Sublist cipher.toList ∧
      (render operations).length ≤ cipher.length) ∧
    (operations ≠ [] → (parse (render operations)).outcome = .ok operations) ∧
    (render operations = cipher ↔ Canonical cipher.toList) := by
  have checked := check_of_outcome_parse_eq_ok parsed
  have shorter := render_sublist parsed
  have length_le := shorter.length_le
  rw [String.length_toList, String.length_toList] at length_le
  refine ⟨⟨shorter, length_le⟩, outcome_parse_render_of_ne_nil, ?_⟩
  rw [canonical_iff]
  constructor
  · rintro rfl
    refine ⟨operations, ?_, String.toList_ofList.symm⟩
    rintro rfl
    cases checked
  · rintro ⟨others, nonempty, text⟩
    have rendered : render others = cipher := by rw [render, text, String.ofList_toList]
    -- a rendered list is read as itself, so it is the list that was read
    rw [← rendered, outcome_parse_render_of_ne_nil nonempty] at parsed
    cases parsed
    exact rendered

/-- Stray digits and signs, leading zeros and a negative zero are dropped from `H-2S007S-0S1-2`, and
`HS7S0S-12` is canonical. -/
theorem render_eq_iff_canonical_stray :
    (parse "H-2S007S-0S1-2").outcome =
        .ok [.horizontalFlip, .rotate 7, .rotate 0, .rotate 1] ∧
      (parse "HS7S0S1").outcome = .ok [.horizontalFlip, .rotate 7, .rotate 0, .rotate 1] ∧
      ¬ Canonical "H-2S007S-0S1-2".toList ∧ Canonical "HS7S0S-12".toList := by
  have parsed : (parse "H-2S007S-0S1-2").outcome =
      .ok [.horizontalFlip, .rotate 7, .rotate 0, .rotate 1] := by decide +kernel
  have parsed' : (parse "HS7S0S-12").outcome =
      .ok [.horizontalFlip, .rotate 7, .rotate 0, .rotate (-12)] := by decide +kernel
  have shown : render [.horizontalFlip, .rotate 7, .rotate 0, .rotate 1] = "HS7S0S1" := by
    decide +kernel
  have shown' : render [.horizontalFlip, .rotate 7, .rotate 0, .rotate (-12)] = "HS7S0S-12" := by
    decide +kernel
  obtain ⟨_, again, fixed⟩ := render_eq_iff_canonical parsed
  obtain ⟨_, _, fixed'⟩ := render_eq_iff_canonical parsed'
  refine ⟨parsed, shown ▸ again (List.cons_ne_nil _ _), fun canonical => ?_, fixed'.mp shown'⟩
  exact absurd (shown.symm.trans (fixed.mpr canonical)) (by decide)

end LayoutCipher.Cipher
