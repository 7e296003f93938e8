import LayoutCipher.Proofs.Cipher.RoundTrip
import LayoutCipher.Proofs.Layout.Composition
import LayoutCipher.Proofs.Operation.Inverse
import Mathlib.Data.List.Perm.Subperm

/-!
# Inverse ciphers

The rendered inverse of the operations of a cipher is a cipher that decodes what the first one has
encoded, and the other way round, although both are executed on the original layout.
-/

namespace LayoutCipher.Layout

open Operation (applyAll render IsInverse)

/-- The keys of a row are distinct characters, so a layout is no wider than there are code points
in a word of 32 bits. -/
theorem width_le (layout : Layout) : layout.width ≤ 2 ^ 32 := by
  obtain ⟨row, mem⟩ := List.exists_mem_of_ne_nil layout.rows layout.rows_ne_nil
  have injective : Function.Injective Char.toNat := fun _ _ => Char.toNat_inj.mp
  have distinct : (row.map Char.toNat).Nodup :=
    ((List.nodup_flatten.mp layout.nodup).1 row mem).map injective
  have bounded : row.map Char.toNat ⊆ List.range (2 ^ 32) := by
    intro n member
    obtain ⟨c, _, rfl⟩ := List.mem_map.mp member
    exact List.mem_range.mpr c.val.toNat_lt
  have fits := (distinct.subperm bounded).length_le
  rwa [List.length_map, List.length_range, layout.length_of_mem row mem] at fits

theorem map_substitution_of_isInverse {layout : Layout} {input : String}
    {operations inverse : List Operation}
    (inverts : IsInverse layout.width operations inverse)
    (accepted : layout.checkInput input = .ok ()) :
    input.map (substitution layout (applyAll (operations ++ inverse) layout)) = input := by
  rw [inverts.applyAll_append]
  exact map_substitution_self (checkInput_eq_ok_iff.mp accepted).2

/-- Every cipher with operations has an inverse: undoing its operations from last to first, each by
any operation that takes it back on layouts of this width.  Executing a cipher and its inverse one
after the other, in either order, gives back every accepted input. -/
theorem outcome_execute_inverse {layout : Layout} {cipher : String} {operations : List Operation}
    (parsed : (Cipher.parse cipher).outcome = .ok operations) (nonempty : operations ≠ []) :
    (∃ inverse, IsInverse layout.width operations inverse) ∧
    ∀ inverse, IsInverse layout.width operations inverse →
      ∀ input, layout.checkInput input = .ok () →
        (layout.execute cipher input >>= layout.execute (render inverse)).outcome = .ok input ∧
        (layout.execute (render inverse) input >>= layout.execute cipher).outcome =
          .ok input := by
  have width_le : layout.width ≤ 2 ^ 63 := (width_le layout).trans (by decide)
  refine ⟨Operation.exists_isInverse layout.width_pos width_le operations, ?_⟩
  intro inverse inverts input accepted
  have nonempty' : inverse ≠ [] := by
    rintro rfl
    exact nonempty (List.reverse_eq_nil_iff.mp (List.forall₂_nil_right_iff.mp inverts))
  have parsed' := Cipher.outcome_parse_render_of_ne_nil nonempty'
  constructor
  · rw [outcome_execute_bind_execute parsed' parsed accepted,
      map_substitution_of_isInverse inverts.symm accepted]
  · rw [outcome_execute_bind_execute parsed parsed' accepted,
      map_substitution_of_isInverse inverts accepted]

/-- The opposite of the least amount is no amount itself, but eight columns of ten undo it. -/
theorem outcome_execute_inverse_least :
    (Cipher.parse "HS-9223372036854775808V").outcome =
        .ok [.horizontalFlip, .rotate Int64.minValue, .verticalFlip] ∧
      render [.verticalFlip, .rotate 8, .horizontalFlip] = "VS8H" ∧
      (qwerty.execute "HS-9223372036854775808V" "DOG" >>= qwerty.execute "VS8H").outcome =
        .ok "DOG" := by
  have parsed : (Cipher.parse "HS-9223372036854775808V").outcome =
      .ok [.horizontalFlip, .rotate Int64.minValue, .verticalFlip] := by decide +kernel
  have inverts : IsInverse qwerty.width [.horizontalFlip, .rotate Int64.minValue, .verticalFlip]
      [.verticalFlip, .rotate 8, .horizontalFlip] :=
    .cons .verticalFlip (.cons (.rotate (by decide)) (.cons .horizontalFlip .nil))
  have shown : render [.verticalFlip, .rotate 8, .horizontalFlip] = "VS8H" := by decide +kernel
  have accepted : qwerty.checkInput "DOG" = .ok () := by decide +kernel
  have decoded := (outcome_execute_inverse parsed (by decide)).2 _ inverts "DOG" accepted
  exact ⟨parsed, shown, shown ▸ decoded.1⟩

end LayoutCipher.Layout
