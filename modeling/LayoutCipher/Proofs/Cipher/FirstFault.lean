import LayoutCipher.Proofs.Cipher.Amounts
import LayoutCipher.Proofs.Cipher.Passes
import Mathlib.Data.List.Infix
import Mathlib.Order.Bounds.Basic

/-!
# The first fault of a cipher

A text can break many rules at once.  `FirstFault` says which fault counts: the rules come in a
fixed order, and of the positions that break one rule the least is named.  A fault of an earlier
rule therefore wins over one of a later rule further to the left.

The passes search with `firstSuffix?` and `List.find?`; both find least positions.
-/

namespace LayoutCipher.Cipher

variable {text : List Char} {i : Nat}

/-! ## Rules -/

/-- The character at a position is none of `H`, `V`, `S`, `-` and the digits. -/
def IllegalAt (text : List Char) (i : Nat) : Prop :=
  ∃ c, text[i]? = some c ∧ c ∉ ['H', 'V', 'S', '-'] ∧ ¬ c.isDigit

/-- A shift operator stands at a position, and neither a digit nor a sign follows it. -/
def DanglingAt (text : List Char) (i : Nat) : Prop :=
  text[i]? = some 'S' ∧ ∀ next, text[i + 1]? = some next → ¬ next.isDigit ∧ next ≠ '-'

/-- A negative sign stands at a position, and no digit follows it. -/
def StrayAt (text : List Char) (i : Nat) : Prop :=
  text[i]? = some '-' ∧ ∀ next, text[i + 1]? = some next → ¬ next.isDigit

/-- No rule is broken. -/
structure Faultless (text : List Char) : Prop where
  nonempty : text ≠ []
  legal (i : Nat) : ¬ IllegalAt text i
  amounts (i : Nat) : ¬ DanglingAt text i
  opens : text[0]? ≠ some '-'
  closes : text[text.length - 1]? ≠ some '-'
  signs (i : Nat) : ¬ StrayAt text i

/-- The fault that counts: the rules before it are kept, and its position is the least that breaks
its own. -/
inductive FirstFault (text : List Char) : Fault → Prop where
  | emptyCipher (empty : text = []) : FirstFault text .emptyCipher
  | illegalCharacter {i : Nat} {c : Char} (here : text[i]? = some c)
      (first : IsLeast {i | IllegalAt text i} i) : FirstFault text (.illegalCharacter i c)
  | danglingShiftOperator {i : Nat} (legal : ∀ i, ¬ IllegalAt text i)
      (first : IsLeast {i | DanglingAt text i} i) : FirstFault text (.danglingShiftOperator i)
  | openingSign (legal : ∀ i, ¬ IllegalAt text i) (amounts : ∀ i, ¬ DanglingAt text i)
      (opens : text[0]? = some '-') : FirstFault text (.misplacedNegativeSign 0)
  | closingSign (legal : ∀ i, ¬ IllegalAt text i) (amounts : ∀ i, ¬ DanglingAt text i)
      (opens : text[0]? ≠ some '-') (closes : text[text.length - 1]? = some '-') :
      FirstFault text (.misplacedNegativeSign (text.length - 1))
  | negativeSignNotBeforeDigit {i : Nat} (legal : ∀ i, ¬ IllegalAt text i)
      (amounts : ∀ i, ¬ DanglingAt text i) (opens : text[0]? ≠ some '-')
      (closes : text[text.length - 1]? ≠ some '-') (first : IsLeast {i | StrayAt text i} i) :
      FirstFault text (.negativeSignNotBeforeDigit i)

/-! ## Searches -/

theorem find?_zipIdx_eq_some_iff {α : Type} {p : α → Bool} {entries : List α} {a : α} {i : Nat} :
    entries.zipIdx.find? (fun entry => p entry.1) = some (a, i) ↔
      entries[i]? = some a ∧ IsLeast {i | ∃ a, entries[i]? = some a ∧ p a} i := by
  rw [List.find?_eq_some_iff_getElem]
  simp only [List.getElem_zipIdx, List.length_zipIdx, Prod.mk.injEq, Nat.zero_add]
  constructor
  · rintro ⟨holds, _, inside, ⟨rfl, rfl⟩, earlier⟩
    refine ⟨List.getElem?_eq_getElem inside, ⟨_, List.getElem?_eq_getElem inside, holds⟩, ?_⟩
    rintro j ⟨b, found, other⟩
    by_contra less
    obtain ⟨_, rfl⟩ := List.getElem?_eq_some_iff.mp found
    simpa [other] using earlier j (Nat.lt_of_not_le less)
  · rintro ⟨here, ⟨b, found, holds⟩, least⟩
    obtain rfl : a = b := Option.some.inj (here.symm.trans found)
    obtain ⟨inside, rfl⟩ := List.getElem?_eq_some_iff.mp here
    refine ⟨holds, i, inside, ⟨rfl, rfl⟩, fun j less => ?_⟩
    by_contra other
    have found := List.getElem?_eq_getElem (Nat.lt_trans less inside)
    exact Nat.not_le_of_lt less (least ⟨_, found, by simpa using other⟩)

section

variable {p : List Char → Bool}

theorem firstSuffix?_eq_findIdx?_tails (ends : p [] = false) :
    firstSuffix? p text = text.tails.findIdx? p := by
  induction text with
  | nil => simp [firstSuffix?, ends]
  | cons c rest ih => rw [firstSuffix?, ih, List.tails_cons, List.findIdx?_cons]

theorem firstSuffix?_eq_none_iff (ends : p [] = false) :
    firstSuffix? p text = none ↔ ∀ i, ¬ p (text.drop i) := by
  rw [firstSuffix?_eq_findIdx?_tails ends, List.findIdx?_eq_none_iff]
  simp only [List.mem_tails, Bool.not_eq_true]
  constructor
  · intro all i
    exact all _ (List.drop_suffix i text)
  · rintro all _ ⟨before, rfl⟩
    simpa using all before.length

theorem firstSuffix?_eq_some_iff (ends : p [] = false) :
    firstSuffix? p text = some i ↔ IsLeast {i | p (text.drop i)} i := by
  rw [firstSuffix?_eq_findIdx?_tails ends, List.findIdx?_eq_some_iff_getElem]
  simp only [List.getElem_tails, List.length_tails]
  constructor
  · rintro ⟨_, holds, earlier⟩
    exact ⟨holds, fun j found => Nat.le_of_not_lt fun less => earlier j less found⟩
  · intro ⟨holds, least⟩
    have inside : i < text.length + 1 := by
      by_contra beyond
      have nothing : text.drop i = [] := List.drop_eq_nil_of_le (by omega)
      have holds : p (text.drop i) := holds
      simp [nothing, ends] at holds
    exact ⟨inside, holds, fun j less found => Nat.not_le_of_lt less (least found)⟩

end

/-! ## Passes -/

theorem illegalAt_iff :
    IllegalAt text i ↔ ∃ c, text[i]? = some c ∧ (!isCipherCharacter c) = true := by
  simp [IllegalAt, isCipherCharacter, and_assoc]

theorem forall_not_illegalAt_iff :
    (∀ i, ¬ IllegalAt text i) ↔ ∀ c ∈ text, isCipherCharacter c := by
  simp only [illegalAt_iff, not_exists, not_and, Bool.not_eq_true', Bool.not_eq_false,
    List.mem_iff_getElem?]
  exact ⟨fun all c ⟨i, here⟩ => all i c here, fun all i c here => all c ⟨i, here⟩⟩

theorem find?_illegal_eq_some_iff {c : Char} :
    text.zipIdx.find? (fun entry => !isCipherCharacter entry.1) = some (c, i) ↔
      text[i]? = some c ∧ IsLeast {i | IllegalAt text i} i := by
  rw [find?_zipIdx_eq_some_iff (p := fun c => !isCipherCharacter c)]
  simp only [illegalAt_iff]

theorem isDanglingShift_drop_iff : isDanglingShift (text.drop i) ↔ DanglingAt text i := by
  unfold DanglingAt
  cases front : text.drop i with
  | nil => simp [isDanglingShift, ← List.head?_drop, front]
  | cons c rest =>
      rw [getElem?_of_drop_eq_cons front, ← List.head?_drop, drop_succ_of_drop_eq_cons front]
      cases rest <;> simp [isDanglingShift, startsWithAmount]

theorem isStraySign_drop_iff : isStraySign (text.drop i) ↔ StrayAt text i := by
  unfold StrayAt
  cases front : text.drop i with
  | nil => simp [isStraySign, ← List.head?_drop, front]
  | cons c rest =>
      rw [getElem?_of_drop_eq_cons front, ← List.head?_drop, drop_succ_of_drop_eq_cons front]
      cases rest <;> simp [isStraySign, startsWithDigit]

variable {fault : Fault}

theorem checkCharacters_eq_error_iff :
    checkCharacters text = .error fault ↔ text = [] ∧ fault = .emptyCipher ∨
      ∃ i c, text[i]? = some c ∧ IsLeast {i | IllegalAt text i} i ∧
        fault = .illegalCharacter i c := by
  simp only [← and_assoc, ← find?_illegal_eq_some_iff]
  unfold checkCharacters
  split
  · next empty => simp [empty, eq_comm]
  · next nonempty =>
      split
      · next c i found => simp [nonempty, found, eq_comm]
      · next found => simp [nonempty, found]

theorem checkShiftOperators_eq_error_iff :
    checkShiftOperators text = .error fault ↔
      ∃ i, IsLeast {i | DanglingAt text i} i ∧ fault = .danglingShiftOperator i := by
  simp only [← isDanglingShift_drop_iff, ← firstSuffix?_eq_some_iff (p := isDanglingShift) rfl]
  unfold checkShiftOperators
  cases firstSuffix? isDanglingShift text <;> simp [eq_comm]

theorem checkNegativeSigns_eq_error_iff :
    checkNegativeSigns text = .error fault ↔
      text[0]? = some '-' ∧ fault = .misplacedNegativeSign 0 ∨
      text[0]? ≠ some '-' ∧
        (text[text.length - 1]? = some '-' ∧ fault = .misplacedNegativeSign (text.length - 1) ∨
        text[text.length - 1]? ≠ some '-' ∧
          ∃ i, IsLeast {i | StrayAt text i} i ∧ fault = .negativeSignNotBeforeDigit i) := by
  simp only [← isStraySign_drop_iff, ← firstSuffix?_eq_some_iff (p := isStraySign) rfl,
    ← List.head?_eq_getElem?, ← List.getLast?_eq_getElem?]
  unfold checkNegativeSigns
  split
  · next opens => simp [opens, eq_comm]
  · next opens =>
      split
      · next closes => simp [opens, closes, eq_comm]
      · next closes => cases firstSuffix? isStraySign text <;> simp [opens, closes, eq_comm]

theorem checkShiftOperators_eq_ok_iff_forall :
    checkShiftOperators text = .ok () ↔ ∀ i, ¬ DanglingAt text i := by
  rw [checkShiftOperators_eq_ok_iff, firstSuffix?_eq_none_iff (p := isDanglingShift) rfl]
  simp only [isDanglingShift_drop_iff]

theorem checkNegativeSigns_eq_ok_iff_forall :
    checkNegativeSigns text = .ok () ↔ text[0]? ≠ some '-' ∧
      text[text.length - 1]? ≠ some '-' ∧ ∀ i, ¬ StrayAt text i := by
  rw [checkNegativeSigns_eq_ok_iff, firstSuffix?_eq_none_iff (p := isStraySign) rfl,
    List.head?_eq_getElem?, List.getLast?_eq_getElem?]
  simp only [isStraySign_drop_iff]

/-! ## Ciphers -/

theorem bind_eq_error_iff {ε : Type} {first second : Except ε Unit} {error : ε} :
    (first >>= fun _ => second) = .error error ↔
      first = .error error ∨ first = .ok () ∧ second = .error error := by
  cases first <;> simp [bind, Except.bind]

theorem ne_nil_of_getElem?_eq_some {c : Char} (here : text[i]? = some c) : text ≠ [] := by
  rintro rfl
  cases here

theorem checkChars_eq_error_iff : checkChars text = .error fault ↔ FirstFault text fault := by
  rw [checkChars, bind_eq_error_iff, bind_eq_error_iff, checkCharacters_eq_error_iff,
    checkCharacters_eq_ok_iff, checkShiftOperators_eq_error_iff,
    checkShiftOperators_eq_ok_iff_forall, checkNegativeSigns_eq_error_iff,
    ← forall_not_illegalAt_iff]
  constructor
  · rintro ((⟨empty, rfl⟩ | ⟨i, c, here, first, rfl⟩) | ⟨⟨_, legal⟩,
      ⟨i, first, rfl⟩ | ⟨amounts, ⟨opens, rfl⟩ | ⟨opens, ⟨closes, rfl⟩ | ⟨closes, i, first, rfl⟩⟩⟩⟩)
    · exact .emptyCipher empty
    · exact .illegalCharacter here first
    · exact .danglingShiftOperator legal first
    · exact .openingSign legal amounts opens
    · exact .closingSign legal amounts opens closes
    · exact .negativeSignNotBeforeDigit legal amounts opens closes first
  · intro first
    cases first with
    | emptyCipher empty => exact .inl (.inl ⟨empty, rfl⟩)
    | illegalCharacter here first => exact .inl (.inr ⟨_, _, here, first, rfl⟩)
    -- what is found behind the first pass stands somewhere, so the text is not empty
    | danglingShiftOperator legal first =>
        have nonempty := ne_nil_of_getElem?_eq_some first.1.1
        exact .inr ⟨⟨nonempty, legal⟩, .inl ⟨_, first, rfl⟩⟩
    | openingSign legal amounts opens =>
        have nonempty := ne_nil_of_getElem?_eq_some opens
        exact .inr ⟨⟨nonempty, legal⟩, .inr ⟨amounts, .inl ⟨opens, rfl⟩⟩⟩
    | closingSign legal amounts opens closes =>
        have nonempty := ne_nil_of_getElem?_eq_some closes
        exact .inr ⟨⟨nonempty, legal⟩, .inr ⟨amounts, .inr ⟨opens, .inl ⟨closes, rfl⟩⟩⟩⟩
    | negativeSignNotBeforeDigit legal amounts opens closes first =>
        have nonempty := ne_nil_of_getElem?_eq_some first.1.1
        exact .inr ⟨⟨nonempty, legal⟩,
          .inr ⟨amounts, .inr ⟨opens, .inr ⟨closes, _, first, rfl⟩⟩⟩⟩

/-- No pass looks at the size of an amount. -/
theorem checkChars_ne_outOfRange (text : List Char) (position : Nat) :
    checkChars text ≠ .error (.shiftAmountOutOfRange position) := by
  intro failed
  cases checkChars_eq_error_iff.mp failed

theorem checkChars_eq_ok_iff_faultless : checkChars text = .ok () ↔ Faultless text := by
  rw [checkChars, bind_eq_ok_iff, bind_eq_ok_iff, checkCharacters_eq_ok_iff,
    checkShiftOperators_eq_ok_iff_forall, checkNegativeSigns_eq_ok_iff_forall,
    ← forall_not_illegalAt_iff]
  constructor
  · rintro ⟨⟨nonempty, legal⟩, amounts, opens, closes, signs⟩
    exact ⟨nonempty, legal, amounts, opens, closes, signs⟩
  · rintro ⟨nonempty, legal, amounts, opens, closes, signs⟩
    exact ⟨⟨nonempty, legal⟩, amounts, opens, closes, signs⟩

/-- A fault names a position and is about the character there. -/
inductive Blames : Fault → Nat → Char → Prop where
  | illegalCharacter {i : Nat} {c : Char} (outside : c ∉ ['H', 'V', 'S', '-'])
      (noDigit : ¬ c.isDigit) : Blames (.illegalCharacter i c) i c
  | danglingShiftOperator (i : Nat) : Blames (.danglingShiftOperator i) i 'S'
  | misplacedNegativeSign (i : Nat) : Blames (.misplacedNegativeSign i) i '-'
  | negativeSignNotBeforeDigit (i : Nat) : Blames (.negativeSignNotBeforeDigit i) i '-'

theorem FirstFault.exists_blames (first : FirstFault text fault) (nonempty : text ≠ []) :
    ∃ i c, text[i]? = some c ∧ Blames fault i c := by
  cases first with
  | emptyCipher empty => exact absurd empty nonempty
  | illegalCharacter here first =>
      obtain ⟨_, found, outside, noDigit⟩ := first.1
      cases here.symm.trans found
      exact ⟨_, _, here, .illegalCharacter outside noDigit⟩
  | danglingShiftOperator _ first => exact ⟨_, _, first.1.1, .danglingShiftOperator _⟩
  | openingSign _ _ opens => exact ⟨_, _, opens, .misplacedNegativeSign _⟩
  | closingSign _ _ _ closes => exact ⟨_, _, closes, .misplacedNegativeSign _⟩
  | negativeSignNotBeforeDigit _ _ _ _ first =>
      exact ⟨_, _, first.1.1, .negativeSignNotBeforeDigit _⟩

/-- A cipher is refused with the first fault of its text and passes if there is none.  Unless the
cipher is empty, the fault names a position below the number of its characters, and the character
there is the one to blame. -/
theorem outcome_validate_eq_error_iff_firstFault (cipher : String) :
    (∀ fault, (validate cipher).outcome = .error fault ↔ FirstFault cipher.toList fault) ∧
    ((validate cipher).outcome = .ok () ↔ Faultless cipher.toList) ∧
    ((validate cipher).outcome = .error .emptyCipher ↔ cipher.length = 0) ∧
    ∀ fault, (validate cipher).outcome = .error fault → cipher.length ≠ 0 →
      ∃ i c, i < cipher.length ∧ cipher.toList[i]? = some c ∧ Blames fault i c := by
  have refused (fault : Fault) :
      (validate cipher).outcome = .error fault ↔ FirstFault cipher.toList fault := by
    rw [outcome_validate]
    exact checkChars_eq_error_iff
  refine ⟨refused, ?_, ?_, ?_⟩
  · rw [outcome_validate]
    exact checkChars_eq_ok_iff_faultless
  · rw [refused, ← String.length_toList, List.length_eq_zero_iff]
    constructor
    · intro first
      cases first with
      | emptyCipher empty => exact empty
    · exact .emptyCipher
  · intro fault failed nonempty
    rw [← String.length_toList, ne_eq, List.length_eq_zero_iff] at nonempty
    obtain ⟨i, c, here, blames⟩ := ((refused fault).mp failed).exists_blames nonempty
    refine ⟨i, c, ?_, here, blames⟩
    rw [← String.length_toList]
    exact (List.getElem?_eq_some_iff.mp here).1

/-- In `-SHé-~` the illegal character wins over the sign and the operator to its left, and is the
one to blame; without illegal characters the operator wins over the opening sign. -/
theorem outcome_validate_eq_error_iff_firstFault_mixed :
    FirstFault "-SHé-~".toList (.illegalCharacter 3 'é') ∧
      (∃ i c, i < "-SHé-~".length ∧ "-SHé-~".toList[i]? = some c ∧
        Blames (.illegalCharacter 3 'é') i c) ∧
      FirstFault "-HSV-".toList (.danglingShiftOperator 2) ∧
      FirstFault "V-3S--".toList (.misplacedNegativeSign 5) ∧
      FirstFault "V-3S--1".toList (.negativeSignNotBeforeDigit 4) ∧
      Faultless "V-3S-01".toList := by
  have refused : (validate "-SHé-~").outcome = .error (.illegalCharacter 3 'é') := by
    decide +kernel
  obtain ⟨first, _, _, blames⟩ := outcome_validate_eq_error_iff_firstFault "-SHé-~"
  refine ⟨(first _).mp refused, blames _ refused (by decide +kernel), ?_, ?_, ?_, ?_⟩
  · exact ((outcome_validate_eq_error_iff_firstFault _).1 _).mp (by decide +kernel)
  · exact ((outcome_validate_eq_error_iff_firstFault _).1 _).mp (by decide +kernel)
  · exact ((outcome_validate_eq_error_iff_firstFault _).1 _).mp (by decide +kernel)
  · exact (outcome_validate_eq_error_iff_firstFault _).2.1.mp (by decide +kernel)

end LayoutCipher.Cipher
