import LayoutCipher.Text.Lower

/-!
# Lower case among ASCII characters

The full mapping to lower case leaves the ASCII characters among themselves, and treats their
letters as the plain mapping does.  From outside it leads into ASCII in two ways only: the Kelvin
sign becomes a `k`, and a dotted capital I becomes an `i` with a combining dot behind it.  So a text
whose lower case is written in ASCII without a `k` is itself written in ASCII.
-/

namespace LayoutCipher.Text

open Unicode

/-- An ASCII character that no other character than an ASCII one becomes in lower case. -/
def Plain (c : Char) : Prop :=
  c.toNat < 0x80 ∧ c ≠ 'k'

/-! ## Characters -/

def capitals : CaseRun :=
  ⟨0x41, 0x5a, 1, 32⟩

/-- A run outside ASCII whose lower case lies outside too, or is the letter `k`. -/
def ForeignRun (run : CaseRun) : Prop :=
  0x80 ≤ run.first ∧
    (0x80 ≤ run.first + run.shift ∧
        (run.last + run.shift < 0xd800 ∨
          0xe000 ≤ run.first + run.shift ∧ run.last + run.shift < 0x110000) ∨
      run.first = run.last ∧ run.first + run.shift = 'k'.toNat)

theorem lowerCaseRuns_eq_cons : lowerCaseRuns = capitals :: lowerCaseRuns.tail :=
  rfl

theorem foreign_of_mem_tail : ∀ run ∈ lowerCaseRuns.tail, ForeignRun run := by
  unfold ForeignRun
  decide +kernel

theorem contains_iff {run : CaseRun} {code : Nat} :
    run.contains code ↔
      (run.first ≤ code ∧ code ≤ run.last) ∧ (code - run.first) % run.step = 0 := by
  simp [CaseRun.contains]

theorem find?_tail_of_ascii {code : Nat} (ascii : code < 0x80) :
    lowerCaseRuns.tail.find? (·.contains code) = none := by
  rw [List.find?_eq_none]
  intro run mem contained
  have above := (foreign_of_mem_tail run mem).1
  have below := (contains_iff.mp contained).1.1
  omega

theorem toLower_of_not_capital {c : Char} (small : ¬ capitals.contains c.toNat) :
    c.toLower = c := by
  unfold Char.toLower
  refine dif_neg fun upper => small (contains_iff.mpr ⟨?_, Nat.mod_one _⟩)
  exact ⟨UInt32.le_iff_toNat_le.mp upper.1, UInt32.le_iff_toNat_le.mp upper.2⟩

theorem toLower_of_capital {c : Char} (capital : capitals.contains c.toNat) :
    c.toLower = Char.ofNat (c.toNat + 32) := by
  have letters : ∀ n < 0x5b, 0x41 ≤ n → (Char.ofNat n).toLower = Char.ofNat (n + 32) := by
    decide
  obtain ⟨first_le, le_last⟩ := (contains_iff.mp capital).1
  have lowered := letters c.toNat (Nat.lt_succ_of_le le_last) first_le
  rwa [Char.ofNat_toNat] at lowered

theorem ascii_of_toLower {c : Char} (ascii : c.toLower.toNat < 0x80) : c.toNat < 0x80 := by
  by_cases capital : capitals.contains c.toNat
  · exact Nat.lt_of_le_of_lt (contains_iff.mp capital).1.2 (by decide)
  · rwa [toLower_of_not_capital capital] at ascii

theorem lowerChar_of_ascii {c : Char} (ascii : c.toNat < 0x80) : lowerChar c = [c.toLower] := by
  have undotted : c ≠ 'İ' := by
    rintro rfl
    exact absurd ascii (by decide)
  rw [lowerChar, if_neg undotted, lowerCaseRuns_eq_cons, List.find?_cons,
    find?_tail_of_ascii ascii]
  by_cases capital : capitals.contains c.toNat
  · rw [capital, toLower_of_capital capital]
    rfl
  · rw [Bool.not_eq_true] at capital
    rw [capital, toLower_of_not_capital (by simp [capital])]

theorem toNat_ofNat {n : Nat} (valid : n.isValidChar) : (Char.ofNat n).toNat = n := by
  rw [Char.ofNat, dif_pos valid]
  rfl

theorem ForeignRun.not_plain {run : CaseRun} (foreign : ForeignRun run) {code : Nat}
    (contained : run.contains code) : ¬ Plain (Char.ofNat (code + run.shift).toNat) := by
  obtain ⟨⟨first_le, le_last⟩, _⟩ := contains_iff.mp contained
  obtain ⟨_, ⟨outside, valid⟩ | ⟨single, letter⟩⟩ := foreign
  · have code_valid : (code + run.shift).toNat.isValidChar := by
      unfold Nat.isValidChar
      omega
    rintro ⟨ascii, _⟩
    rw [toNat_ofNat code_valid] at ascii
    omega
  · have same : (code + run.shift).toNat = 'k'.toNat := by omega
    rw [same]
    exact fun plain => plain.2 rfl

theorem exists_not_plain_of_not_ascii {c : Char} (foreign : ¬ c.toNat < 0x80) :
    ∃ d ∈ lowerChar c, ¬ Plain d := by
  unfold lowerChar
  split
  · exact ⟨'\u0307', by simp, fun plain => absurd plain.1 (by decide)⟩
  · split
    · next run found =>
        have contained : run.contains c.toNat :=
          List.find?_some (p := (CaseRun.contains · c.toNat)) found
        have mem := List.mem_of_find?_eq_some found
        rw [lowerCaseRuns_eq_cons] at mem
        rcases List.mem_cons.mp mem with rfl | mem
        · have last : c.toNat ≤ 0x5a := (contains_iff.mp contained).1.2
          omega
        · exact ⟨_, List.mem_singleton_self _, (foreign_of_mem_tail run mem).not_plain contained⟩
    · exact ⟨c, List.mem_singleton_self c, fun plain => foreign plain.1⟩

/-! ## Texts -/

theorem lowerAfter_of_ascii {c : Char} (ascii : c.toNat < 0x80) (before rest : List Char) :
    lowerAfter before (c :: rest) = c.toLower :: lowerAfter (c :: before) rest := by
  have notSigma : c ≠ 'Σ' := by
    rintro rfl
    exact absurd ascii (by decide)
  rw [lowerAfter, if_neg notSigma, lowerChar_of_ascii ascii]
  rfl

theorem exists_not_plain_lowerAfter {c : Char} (foreign : ¬ c.toNat < 0x80)
    (before rest : List Char) : ∃ d ∈ lowerAfter before (c :: rest), ¬ Plain d := by
  rw [lowerAfter]
  split
  · -- either sigma is as foreign as the capital one
    split
    · exact ⟨'ς', by simp, fun plain => absurd plain.1 (by decide)⟩
    · exact ⟨'σ', by simp, fun plain => absurd plain.1 (by decide)⟩
  · obtain ⟨d, mem, notPlain⟩ := exists_not_plain_of_not_ascii foreign
    exact ⟨d, List.mem_append_left _ mem, notPlain⟩

theorem lowerAfter_eq_iff {name : List Char} (plain : ∀ d ∈ name, Plain d)
    (before text : List Char) :
    lowerAfter before text = name ↔ text.map Char.toLower = name := by
  induction text generalizing before name with
  | nil => rfl
  | cons c rest ih =>
      by_cases ascii : c.toNat < 0x80
      · rw [lowerAfter_of_ascii ascii, List.map_cons]
        cases name with
        | nil => simp
        | cons d others =>
            rw [List.cons.injEq, List.cons.injEq,
              ih (List.forall_mem_cons.mp plain).2 (c :: before)]
      · apply iff_of_false
        · rintro rfl
          obtain ⟨d, mem, notPlain⟩ := exists_not_plain_lowerAfter ascii before rest
          exact notPlain (plain d mem)
        · rintro rfl
          exact ascii (ascii_of_toLower (plain c.toLower List.mem_cons_self).1)

theorem toList_toLower (text : String) : text.toLower.toList = text.toList.map Char.toLower :=
  String.toList_map

theorem ascii_of_plain_toLower {text : String} (plain : ∀ d ∈ text.toLower.toList, Plain d) :
    ∀ c ∈ text.toList, c.toNat < 0x80 := by
  intro c mem
  rw [toList_toLower] at plain
  exact ascii_of_toLower (plain c.toLower (List.mem_map_of_mem mem)).1

/-- A text has a plain lower case exactly if it differs from it in the case of ASCII letters. -/
theorem lower_eq_iff {name : String} (plain : ∀ d ∈ name.toList, Plain d) (text : String) :
    lower text = name ↔ text.toLower = name := by
  rw [lower, ← String.toList_inj, String.toList_ofList, lowerAfter_eq_iff plain,
    ← toList_toLower, String.toList_inj]

end LayoutCipher.Text
