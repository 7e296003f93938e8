import LayoutCipher.Proofs.Cipher.Concatenation
import LayoutCipher.Proofs.Layout.Execution
import LayoutCipher.Proofs.Operation.ColumnMap

/-!
# Ciphers in sequence

Putting ciphers together composes what they do.  Two layouts take part in every execution, and so
there are two ways to execute in steps.  When the second step types on the layout that the first
one has made, the ciphers act in their order; when both type on the same layout, the later part of
the cipher acts first.
-/

namespace LayoutCipher.Layout

open Operation (applyAll origin)

variable {layout : Layout} {first second : String} {earlier later : List Operation}
  {input : String}

/-! ## Substitutions of composed operations -/

/-- On one layout the later operations act first: they say where a key is looked for that the
earlier ones then put there. -/
theorem substitution_applyAll_append {c : Char} (mem : c ∈ layout.cells) :
    substitution layout (applyAll earlier layout) (substitution layout (applyAll later layout) c) =
      substitution layout (applyAll (earlier ++ later) layout) c := by
  obtain ⟨place, typed⟩ := Grid.mem_cells_iff_exists_get?.mp mem
  have reached := Grid.reaches_of_get?_eq_some typed
  have rearranged := Operation.rearranges_applyAll earlier layout
  -- what the later operations read at the place stood at its origin
  have key : layout.get? (origin later layout.height layout.width place) =
      some (substitution layout (applyAll later layout) c) := by
    rw [← Operation.get?_applyAll later layout reached]
    exact get?_eq_substitution (Operation.rearranges_applyAll later layout) typed
  have put : (applyAll (earlier ++ later) layout).get? place =
      some (substitution layout (applyAll earlier layout)
        (substitution layout (applyAll later layout) c)) := by
    rw [Operation.applyAll_append,
      Operation.get?_applyAll later _ (rearranged.reaches_iff.mpr reached),
      rearranged.height_eq, rearranged.width_eq, get?_eq_substitution rearranged key]
  have composed := get?_eq_substitution
    (Operation.rearranges_applyAll (earlier ++ later) layout) typed
  exact Option.some.inj (put.symm.trans composed)

theorem map_substitution_applyAll_append (typable : ∀ c ∈ input.toList, c ∈ layout.cells) :
    (input.map (substitution layout (applyAll later layout))).map
        (substitution layout (applyAll earlier layout)) =
      input.map (substitution layout (applyAll (earlier ++ later) layout)) :=
  map_map_eq_map fun c mem => substitution_applyAll_append (typable c mem)

/-! ## Executions in sequence -/

theorem checkInput_map_substitution {other : Layout} (rearranged : layout.Rearranges other)
    (accepted : layout.checkInput input = .ok ()) :
    layout.checkInput (input.map (substitution layout other)) = .ok () := by
  obtain ⟨nonempty, typable⟩ := checkInput_eq_ok_iff.mp accepted
  refine checkInput_eq_ok_iff.mpr ⟨?_, mem_cells_of_mem_map_substitution rearranged typable⟩
  simpa [String.toList_map] using nonempty

theorem checkInput_eq_ok_of_rearranges {other : Layout} (rearranged : layout.Rearranges other)
    (accepted : layout.checkInput input = .ok ()) : other.checkInput input = .ok () := by
  obtain ⟨nonempty, typable⟩ := checkInput_eq_ok_iff.mp accepted
  exact checkInput_eq_ok_iff.mpr
    ⟨nonempty, fun c mem => rearranged.mem_cells_iff.mpr (typable c mem)⟩

theorem outcome_execute_bind_execute (parsed : (Cipher.parse first).outcome = .ok earlier)
    (parsed' : (Cipher.parse second).outcome = .ok later)
    (accepted : layout.checkInput input = .ok ()) :
    (layout.execute second input >>= layout.execute first).outcome =
      .ok (input.map (substitution layout (applyAll (earlier ++ later) layout))) := by
  have typable := (checkInput_eq_ok_iff.mp accepted).2
  have between := checkInput_map_substitution (Operation.rearranges_applyAll later layout) accepted
  rw [Logged.outcome_bind, outcome_execute_of_ok parsed' accepted]
  exact (outcome_execute_of_ok parsed between).trans
    (congrArg Except.ok (map_substitution_applyAll_append typable))

theorem outcome_execute_transformed (parsed : (Cipher.parse first).outcome = .ok earlier)
    (parsed' : (Cipher.parse second).outcome = .ok later)
    (accepted : layout.checkInput input = .ok ()) :
    (do
      let transformed ← layout.transform first
      let output ← layout.execute first input
      Layout.execute transformed second output).outcome =
      .ok (input.map (substitution layout (applyAll (earlier ++ later) layout))) := by
  have typable := (checkInput_eq_ok_iff.mp accepted).2
  have firstMove := Operation.rearranges_applyAll earlier layout
  have secondMove := Operation.rearranges_applyAll later (applyAll earlier layout)
  have between := checkInput_eq_ok_of_rearranges firstMove
    (checkInput_map_substitution firstMove accepted)
  rw [Logged.outcome_bind, layout.outcome_transform_of_ok parsed]
  change (layout.execute first input >>=
    Layout.execute (applyAll earlier layout) second).outcome = _
  rw [Logged.outcome_bind, outcome_execute_of_ok parsed accepted, Operation.applyAll_append]
  exact (outcome_execute_of_ok parsed' between).trans
    (congrArg Except.ok (map_substitution_trans firstMove secondMove typable))

/-- Two ciphers that can be read are read one after the other when they are put together, unless an
amount runs across the seam.  Grids are then transformed by one cipher after the other.  Inputs are
retyped by the first cipher and then, on the layout that it has made, by the second; or on one
layout by the second cipher and then by the first. -/
theorem outcome_append_eq_composition (parsed : (Cipher.parse first).outcome = .ok earlier)
    (parsed' : (Cipher.parse second).outcome = .ok later)
    (seam : Cipher.startsWithDigit second.toList = false ∨ ¬ Cipher.EndsInAmount first.toList) :
    (Cipher.parse (first ++ second)).outcome = .ok (earlier ++ later) ∧
    (∀ {α : Type} (g : Grid α), ∃ result,
      (g.transform (first ++ second)).outcome = .ok result ∧
      (g.transform first >>= fun transformed => transformed.transform second).outcome =
        .ok result) ∧
    ∀ (layout : Layout) (input : String), layout.checkInput input = .ok () → ∃ output,
      (layout.execute (first ++ second) input).outcome = .ok output ∧
      (do
        let transformed ← layout.transform first
        let between ← layout.execute first input
        Layout.execute transformed second between).outcome = .ok output ∧
      (layout.execute second input >>= layout.execute first).outcome = .ok output := by
  have whole := Cipher.outcome_parse_append parsed parsed' seam
  refine ⟨whole, ?_, ?_⟩
  · intro α g
    refine ⟨applyAll later (applyAll earlier g), ?_, ?_⟩
    · rw [g.outcome_transform_of_ok whole, Operation.applyAll_append]
    · rw [Logged.outcome_bind, g.outcome_transform_of_ok parsed]
      exact Grid.outcome_transform_of_ok _ parsed'
  · intro layout input accepted
    exact ⟨_, outcome_execute_of_ok whole accepted,
      outcome_execute_transformed parsed parsed' accepted,
      outcome_execute_bind_execute parsed parsed' accepted⟩

/-- Behind the stray number of `S3-4` a cipher may open with a digit. -/
theorem outcome_append_eq_composition_stray :
    (Cipher.parse ("S3-4" ++ "5HS-1")).outcome =
        .ok [.rotate 3, .horizontalFlip, .rotate (-1)] ∧
      ∃ output, (Layout.qwerty.execute "S3-45HS-1" "DOG").outcome = .ok output ∧
        (Layout.qwerty.execute "5HS-1" "DOG" >>= Layout.qwerty.execute "S3-4").outcome =
          .ok output := by
  have parsed : (Cipher.parse "S3-4").outcome = .ok [.rotate 3] := by decide +kernel
  have parsed' : (Cipher.parse "5HS-1").outcome = .ok [.horizontalFlip, .rotate (-1)] := by
    decide +kernel
  have seam : ¬ Cipher.EndsInAmount "S3-4".toList := by decide +kernel
  obtain ⟨whole, _, executed⟩ := outcome_append_eq_composition parsed parsed' (.inr seam)
  have accepted : Layout.qwerty.checkInput "DOG" = .ok () := by decide +kernel
  obtain ⟨output, together, _, apart⟩ := executed Layout.qwerty "DOG" accepted
  exact ⟨whole, output, together, apart⟩

end LayoutCipher.Layout
