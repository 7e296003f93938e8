import LayoutCipher.Proofs.Grid.Construction
import LayoutCipher.Proofs.Operation.Rearrangement
import LayoutCipher.Retype

/-!
# Reachable grids

The distinctness and the shape of cells are checked once, when a grid is built.  Everything that
is done to a grid afterwards keeps them: a reachable grid has the shape and the cells of the one
that was built, and its rows would be accepted again.
-/

namespace LayoutCipher

namespace Grid

variable {α : Type}

/-! ## Failing transformations -/

theorem outcome_transform (g : Grid α) (cipher : String) :
    (g.transform cipher).outcome =
      (Cipher.parse cipher).outcome.map fun operations => Operation.applyAll operations g := by
  rw [transform, Logged.outcome_bind]
  cases (Cipher.parse cipher).outcome with
  | error fault => rfl
  | ok operations => exact Operation.outcome_applyAllLogged operations g

theorem outcome_transform_eq_ok_iff {g transformed : Grid α} {cipher : String} :
    (g.transform cipher).outcome = .ok transformed ↔
      ∃ operations, (Cipher.parse cipher).outcome = .ok operations ∧
        Operation.applyAll operations g = transformed := by
  rw [outcome_transform]
  cases (Cipher.parse cipher).outcome <;> simp [Except.map]

theorem outcome_transform_eq_error_iff {g : Grid α} {cipher : String} {fault : Fault} :
    (g.transform cipher).outcome = .error fault ↔
      (Cipher.parse cipher).outcome = .error fault := by
  rw [outcome_transform]
  cases (Cipher.parse cipher).outcome <;> simp [Except.map]

theorem operationApplied_not_mem_events_parse (cipher : String) (operation : Operation) :
    .operationApplied operation ∉ (Cipher.parse cipher).events := by
  rw [Cipher.events_parse]
  cases checked : Cipher.check cipher with
  | error fault => simp [Cipher.events_validate_of_error checked]
  | ok _ => simp [Cipher.events_validate_of_ok checked]

theorem events_transform_of_error {g : Grid α} {cipher : String} {fault : Fault}
    (failed : (g.transform cipher).outcome = .error fault) :
    (g.transform cipher).events = (Cipher.parse cipher).events :=
  Logged.events_bind_of_error (outcome_transform_eq_error_iff.mp failed) _

/-! ## Runs -/

/-- The second grid comes from the first by a number of steps: an operation, several of them, or
a cipher that can be read. -/
inductive Reachable (built : Grid α) : Grid α → Prop where
  | built : Reachable built built
  | apply {g : Grid α} (before : Reachable built g) (operation : Operation) :
      Reachable built (operation.apply g)
  | applyAll {g : Grid α} (before : Reachable built g) (operations : List Operation) :
      Reachable built (Operation.applyAll operations g)
  | transform {g transformed : Grid α} (before : Reachable built g) {cipher : String}
      (succeeded : (g.transform cipher).outcome = .ok transformed) : Reachable built transformed

theorem rearranges_of_outcome_transform_eq_ok {g transformed : Grid α} {cipher : String}
    (succeeded : (g.transform cipher).outcome = .ok transformed) : g.Rearranges transformed := by
  obtain ⟨operations, _, rfl⟩ := outcome_transform_eq_ok_iff.mp succeeded
  exact Operation.rearranges_applyAll operations g

theorem Reachable.rearranges {built reached : Grid α} (reachable : built.Reachable reached) :
    built.Rearranges reached := by
  induction reachable with
  | built => exact .refl built
  | apply _ operation ih => exact ih.trans (Operation.rearranges_apply operation _)
  | applyAll _ operations ih => exact ih.trans (Operation.rearranges_applyAll operations _)
  | transform _ succeeded ih => exact ih.trans (rearranges_of_outcome_transform_eq_ok succeeded)

/-- Every grid that is reached from one that was built has its shape, with at least one row and
one column, and its cells in some order, none of them twice.  Its rows are the pieces of the list
of all cells and would be accepted again, as lists and as texts.  A cipher that fails on it has
applied no operation. -/
theorem reachable_invariant [DecidableEq α] {rows : List (List α)} {built : Grid α}
    (accepted : ofRows rows = .ok built) :
    built.rows = rows ∧
    (∀ reached, built.Reachable reached →
      (reached.height = built.height ∧ 1 ≤ reached.height) ∧
      (reached.width = built.width ∧ 1 ≤ reached.width) ∧
      reached.cells.length = reached.height * reached.width ∧
      reached.cells.Nodup ∧ reached.cells.Perm built.cells ∧
      reached.rows.flatten = reached.cells ∧
      (∀ r < reached.height,
        reached.rows[r]? = some ((reached.cells.drop (r * reached.width)).take reached.width)) ∧
      ofRows reached.rows = .ok reached ∧
      ∀ cipher fault, (reached.transform cipher).outcome = .error fault →
        (Cipher.parse cipher).outcome = .error fault ∧
        ∀ operation, .operationApplied operation ∉ (reached.transform cipher).events) ∧
    ∀ layout : Layout, Layout.ofStrings layout.rowStrings = .ok layout := by
  refine ⟨rows_eq_of_ofRows_eq_ok accepted, ?_, Layout.ofStrings_rowStrings⟩
  intro reached reachable
  -- all that is asked follows from the rearrangement and from what every grid carries with it
  have kept := reachable.rearranges
  refine ⟨⟨kept.height_eq, reached.height_pos⟩, ⟨kept.width_eq, reached.width_pos⟩,
    reached.length_cells, kept.cells_perm.nodup_iff.mpr built.nodup, kept.cells_perm, rfl,
    fun r inside => reached.getElem?_rows inside, ofRows_rows reached, ?_⟩
  intro cipher fault failed
  refine ⟨outcome_transform_eq_error_iff.mp failed, fun operation => ?_⟩
  rw [events_transform_of_error failed]
  exact operationApplied_not_mem_events_parse cipher operation

/-- A flip, the cipher `VS12` and two operations more keep the forty keys of the built-in layout;
the cipher `HVS` fails on what they leave and applies nothing. -/
theorem reachable_invariant_qwerty :
    ofRows Layout.qwerty.rows = .ok Layout.qwerty ∧
      ∃ reached, Layout.qwerty.Reachable reached ∧ reached.cells.length = 40 ∧
        ofRows reached.rows = .ok reached ∧
        (reached.transform "HVS").outcome = .error (.danglingShiftOperator 2) ∧
        ∀ operation, .operationApplied operation ∉ (reached.transform "HVS").events := by
  have accepted := ofRows_rows Layout.qwerty
  have parsed : (Cipher.parse "VS12").outcome = .ok [.verticalFlip, .rotate 12] := by
    decide +kernel
  have refused : (Cipher.parse "HVS").outcome = .error (.danglingShiftOperator 2) := by
    decide +kernel
  have flipped : Layout.qwerty.Reachable _ := Reachable.built.apply .horizontalFlip
  have transformed := flipped.transform (outcome_transform_of_ok _ parsed)
  have reachable := transformed.applyAll [.rotate (-3), .verticalFlip]
  obtain ⟨_, invariant, _⟩ := reachable_invariant accepted
  obtain ⟨⟨height_eq, _⟩, ⟨width_eq, _⟩, length_eq, _, _, _, _, rebuilt, failing⟩ :=
    invariant _ reachable
  have failed (g : Layout) : (g.transform "HVS").outcome = _ :=
    outcome_transform_eq_error_iff.mpr refused
  refine ⟨accepted, _, reachable, ?_, rebuilt, failed _, (failing _ _ (failed _)).2⟩
  rw [length_eq, height_eq, width_eq]
  rfl

end Grid

end LayoutCipher
