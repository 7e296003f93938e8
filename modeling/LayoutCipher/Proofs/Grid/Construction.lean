import LayoutCipher.Grid.Layout

/-!
# Building grids from their rows

The search for defects finds nothing exactly in the rows of grids.  So building a grid from rows
and reading the rows of a grid are inverse to each other, also where the rows are texts.
-/

namespace LayoutCipher

namespace Grid

variable {α : Type} [DecidableEq α]

theorem firstRepeat?_of_nodup {seen cells : List α} (distinct : (seen ++ cells).Nodup) :
    firstRepeat? seen cells = none := by
  induction cells generalizing seen with
  | nil => rfl
  | cons cell rest ih =>
      have absent : cell ∉ seen := fun mem =>
        (List.nodup_append.mp distinct).2.2 cell mem cell List.mem_cons_self rfl
      have grown : ((seen ++ [cell]) ++ rest).Nodup := by simpa using distinct
      simp [firstRepeat?, absent, ih grown]

theorem firstDefectFrom?_of_nodup {width : Nat} (width_pos : 0 < width) {seen : List α}
    {rows : List (List α)} (length_of_mem : ∀ cells ∈ rows, cells.length = width)
    (distinct : (seen ++ rows.flatten).Nodup) (row : Nat) :
    firstDefectFrom? width row seen rows = none := by
  induction rows generalizing seen row with
  | nil => rfl
  | cons cells rest ih =>
      have fits : cells.length = width := length_of_mem cells List.mem_cons_self
      have nonempty : cells ≠ [] := List.ne_nil_of_length_pos (fits.symm ▸ width_pos)
      -- the cells of the row go over to those that have been seen
      have grown : ((seen ++ cells) ++ rest.flatten).Nodup := by simpa using distinct
      have unrepeated : firstRepeat? seen cells = none :=
        firstRepeat?_of_nodup (List.nodup_append.mp grown).1
      rw [firstDefectFrom?, if_neg nonempty, if_neg (not_not_intro fits), unrepeated]
      exact ih (fun other mem => length_of_mem other (List.mem_cons_of_mem cells mem)) grown _

theorem firstDefect?_rows (g : Grid α) : firstDefect? g.rows = none := by
  have nonempty := g.rows_ne_nil
  have length_of_mem := g.length_of_mem
  have distinct := g.nodup
  revert nonempty length_of_mem distinct
  cases g.rows with
  | nil => intro nonempty; exact absurd rfl nonempty
  | cons first rest =>
      intro _ length_of_mem distinct
      have width_eq : first.length = g.width := length_of_mem first List.mem_cons_self
      rw [firstDefect?, width_eq]
      exact firstDefectFrom?_of_nodup g.width_pos length_of_mem (by simpa using distinct) 0

theorem rows_eq_of_ofRows_eq_ok {rows : List (List α)} {g : Grid α}
    (built : ofRows rows = .ok g) : g.rows = rows := by
  unfold ofRows at built
  split at built
  · cases built
  · cases built
    rfl

/-- Every grid is built from its rows. -/
theorem ofRows_rows (g : Grid α) : ofRows g.rows = .ok g := by
  cases built : ofRows g.rows with
  | error defect =>
      unfold ofRows at built
      split at built
      · next found => rw [firstDefect?_rows g] at found; cases found
      · cases built
  | ok other => rw [Grid.ext (rows_eq_of_ofRows_eq_ok built)]

theorem ofRows_eq_ok_iff {rows : List (List α)} {g : Grid α} :
    ofRows rows = .ok g ↔ g.rows = rows := by
  constructor
  · exact rows_eq_of_ofRows_eq_ok
  · rintro rfl
    exact ofRows_rows g

end Grid

namespace Layout

theorem map_toList_rowStrings (layout : Layout) :
    layout.rowStrings.map String.toList = layout.rows := by
  rw [rowStrings, List.map_map]
  calc layout.rows.map (String.toList ∘ String.ofList)
      = layout.rows.map id := List.map_congr_left fun row _ => String.toList_ofList
    _ = layout.rows := List.map_id _

/-- Every layout is built from the texts of its rows. -/
theorem ofStrings_rowStrings (layout : Layout) : ofStrings layout.rowStrings = .ok layout := by
  rw [ofStrings, map_toList_rowStrings, Grid.ofRows_rows]

end Layout

end LayoutCipher
