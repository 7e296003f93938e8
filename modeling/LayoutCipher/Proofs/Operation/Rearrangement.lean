import LayoutCipher.Proofs.Operation.Source

/-!
# Rearranged grids

Operations move the cells of a grid about and do nothing else: the shape stays, and so does the
stock of cells.  Grids that are related in this way reach the same coordinates.
-/

namespace LayoutCipher

variable {α : Type}

namespace Grid

/-- The second grid has the shape of the first and holds the same cells, in any order. -/
structure Rearranges (g h : Grid α) : Prop where
  height_eq : h.height = g.height
  width_eq : h.width = g.width
  cells_perm : h.cells.Perm g.cells

namespace Rearranges

variable {f g h : Grid α}

theorem refl (g : Grid α) : g.Rearranges g :=
  ⟨rfl, rfl, List.Perm.refl _⟩

theorem symm (rearranged : g.Rearranges h) : h.Rearranges g :=
  ⟨rearranged.height_eq.symm, rearranged.width_eq.symm, rearranged.cells_perm.symm⟩

theorem trans (first : f.Rearranges g) (second : g.Rearranges h) : f.Rearranges h :=
  ⟨second.height_eq.trans first.height_eq, second.width_eq.trans first.width_eq,
    second.cells_perm.trans first.cells_perm⟩

theorem reaches_iff (rearranged : g.Rearranges h) {place : Coordinate} :
    h.Reaches place ↔ g.Reaches place := by
  rw [Reaches, Reaches, rearranged.height_eq, rearranged.width_eq]

theorem mem_cells_iff (rearranged : g.Rearranges h) {cell : α} : cell ∈ h.cells ↔ cell ∈ g.cells :=
  rearranged.cells_perm.mem_iff

end Rearranges

end Grid

namespace Operation

theorem rearranges_apply (operation : Operation) (g : Grid α) :
    g.Rearranges (operation.apply g) := by
  refine ⟨height_apply operation g, width_apply operation g, ?_⟩
  cases operation with
  | horizontalFlip => exact Grid.flatten_map_perm List.reverse_perm g.rows
  | verticalFlip => exact (List.reverse_perm g.rows).flatten
  | rotate amount =>
      exact Grid.flatten_map_perm (Grid.rotateRight_perm · (rotationOffset amount g.width)) g.rows

theorem rearranges_applyAll (operations : List Operation) (g : Grid α) :
    g.Rearranges (applyAll operations g) := by
  induction operations generalizing g with
  | nil => exact .refl g
  | cons operation rest ih => exact (rearranges_apply operation g).trans (ih (operation.apply g))

end Operation

end LayoutCipher
