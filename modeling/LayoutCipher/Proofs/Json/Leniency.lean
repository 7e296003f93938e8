import LayoutCipher.Json.Reader

/-!
# Lenient readers

A reader is strict in two ways: it refuses unpaired surrogates, and it refuses values that are
nested too deeply.  A reader that lets more surrogates pass, or allows for a greater depth, reads
all that the strict one reads, and reads the same.
-/

namespace LayoutCipher.Json.Reader

/-- Whatever comes of the first computation comes of the second as well. -/
def Within {α : Type} (first second : Option α) : Prop :=
  ∀ result, first = some result → second = some result

namespace Within

variable {α β : Type}

theorem refl (first : Option α) : Within first first :=
  fun _ found => found

theorem none (second : Option α) : Within .none second :=
  nofun

theorem bind {first second : Option α} {next next' : α → Option β} (within : Within first second)
    (nexts : ∀ a, Within (next a) (next' a)) : Within (first >>= next) (second >>= next') := by
  intro result found
  obtain ⟨a, here, there⟩ := Option.bind_eq_some_iff.mp found
  exact Option.bind_eq_some_iff.mpr ⟨a, within a here, nexts a result there⟩

end Within

variable (surrogates : Surrogates)

theorem within_unicodeEscape? (text : List Char) :
    Within (unicodeEscape? .refused text) (unicodeEscape? surrogates text) := by
  refine .bind (.refl _) ?_
  rintro ⟨unit, rest⟩
  dsimp only
  split
  · split
    · refine .bind (.refl _) ?_
      rintro ⟨second, after⟩
      dsimp only
      split
      · exact .refl _
      · exact .none _
    · exact .none _
  · split
    · exact .none _
    · exact .refl _

theorem within_escape? (text : List Char) :
    Within (escape? .refused text) (escape? surrogates text) := by
  unfold escape?
  split
  case h_9 rest => exact within_unicodeEscape? surrogates rest
  all_goals exact .refl _

theorem within_stringBody? (bound : Nat) (text : List Char) :
    Within (stringBody? .refused bound text) (stringBody? surrogates bound text) := by
  induction bound generalizing text with
  | zero => exact .none _
  | succ bound ih =>
      cases text with
      | nil => exact .none _
      | cons c rest =>
          rw [stringBody?, stringBody?]
          split
          · exact .refl _
          split
          · exact .bind (within_escape? surrogates rest) fun escaped =>
              .bind (ih escaped.2) fun _ => .refl _
          split
          · exact .none _
          · exact .bind (ih rest) fun _ => .refl _

theorem within_string? (text : List Char) :
    Within (string? .refused text) (string? surrogates text) := by
  unfold string?
  split
  · exact .bind (within_stringBody? surrogates _ _) fun _ => .refl _
  · exact .none _

section

variable {read read' : List Char → Option (Json × List Char)}

theorem within_elements? (within : ∀ text, Within (read text) (read' text)) (bound : Nat)
    (text : List Char) : Within (elements? read bound text) (elements? read' bound text) := by
  induction bound generalizing text with
  | zero => exact .none _
  | succ bound ih =>
      rw [elements?, elements?]
      refine .bind (within text) ?_
      rintro ⟨element, rest⟩
      dsimp only
      split
      · exact .bind (ih _) fun _ => .refl _
      · exact .refl _
      · exact .none _

theorem within_array? (within : ∀ text, Within (read text) (read' text)) (text : List Char) :
    Within (array? read text) (array? read' text) := by
  unfold array?
  split
  · exact .refl _
  · exact within_elements? within _ text

end

section

variable {read read' : String → List Char → Option (Json × List Char)}

theorem within_members? (within : ∀ name text, Within (read name text) (read' name text))
    (bound : Nat) (text : List Char) :
    Within (members? .refused read bound text) (members? surrogates read' bound text) := by
  induction bound generalizing text with
  | zero => exact .none _
  | succ bound ih =>
      rw [members?, members?]
      refine .bind (within_string? surrogates _) ?_
      rintro ⟨name, rest⟩
      dsimp only
      split
      · refine .bind (within name _) ?_
        rintro ⟨value, rest⟩
        dsimp only
        split
        · exact .bind (ih _) fun _ => .refl _
        · exact .refl _
        · exact .none _
      · exact .none _

theorem within_object? (within : ∀ name text, Within (read name text) (read' name text))
    (text : List Char) :
    Within (object? .refused read text) (object? surrogates read' text) := by
  unfold object?
  split
  · exact .refl _
  · exact within_members? surrogates within _ text

end

theorem within_value? {depth depth' : Nat} (le : depth ≤ depth') (text : List Char) :
    Within (value? .refused depth text) (value? surrogates depth' text) := by
  induction depth generalizing depth' text with
  | zero => exact .none _
  | succ depth ih =>
      obtain ⟨depth', rfl⟩ := Nat.exists_eq_succ_of_ne_zero (Nat.ne_zero_of_lt le)
      have deeper := fun text => ih (Nat.le_of_succ_le_succ le) text
      rw [value?, value?]
      split
      · exact .bind (within_array? deeper _) fun _ => .refl _
      · exact .bind (within_object? surrogates (fun _ => deeper) _) fun _ => .refl _
      · exact .bind (within_string? surrogates _) fun _ => .refl _
      all_goals exact .refl _

end LayoutCipher.Json.Reader
