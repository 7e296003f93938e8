import LayoutCipher.Proofs.Grid.Cells

/-!
# Finding cells

The index of a grid lists every cell with its coordinate.  Looking a cell up in it and asking the
grid for its cell at a coordinate are inverse to each other.
-/

namespace LayoutCipher.Grid

variable {α : Type}

theorem mem_index_iff {g : Grid α} {cell : α} {place : Coordinate} :
    (cell, place) ∈ g.index ↔ g.get? place = some cell := by
  rw [get?_eq_bind, Option.bind_eq_some_iff, index, List.mem_flatten]
  simp only [List.mem_map, List.mem_zipIdx_iff_getElem?]
  constructor
  · rintro ⟨_, ⟨⟨cells, row⟩, rowFound, rfl⟩, mem⟩
    obtain ⟨⟨other, column⟩, cellFound, same⟩ := List.mem_map.mp mem
    cases same
    exact ⟨cells, rowFound, List.mem_zipIdx_iff_getElem?.mp cellFound⟩
  · rintro ⟨cells, rowFound, cellFound⟩
    exact ⟨_, ⟨(cells, place.row), rowFound, rfl⟩,
      List.mem_map.mpr ⟨(cell, place.column), List.mem_zipIdx_iff_getElem?.mpr cellFound, rfl⟩⟩

theorem lookup_eq_some_iff_mem {κ β : Type} [BEq κ] [LawfulBEq κ] {entries : List (κ × β)}
    (functional : ∀ key first second,
      (key, first) ∈ entries → (key, second) ∈ entries → first = second)
    {key : κ} {value : β} : entries.lookup key = some value ↔ (key, value) ∈ entries := by
  constructor
  · intro found
    obtain ⟨before, after, rfl, _⟩ := List.lookup_eq_some_iff.mp found
    exact List.mem_append_right before List.mem_cons_self
  · intro mem
    cases found : entries.lookup key with
    | none => simpa using List.lookup_eq_none_iff.mp found _ mem
    | some other =>
        obtain ⟨before, after, rfl, _⟩ := List.lookup_eq_some_iff.mp found
        rw [functional key other value (List.mem_append_right before List.mem_cons_self) mem]

/-- The index finds a cell exactly at the coordinate where the grid has it. -/
theorem lookup_index_eq_some_iff [BEq α] [LawfulBEq α] {g : Grid α} {cell : α}
    {place : Coordinate} : g.index.lookup cell = some place ↔ g.get? place = some cell := by
  rw [lookup_eq_some_iff_mem, mem_index_iff]
  intro key first second here there
  exact get?_injective (mem_index_iff.mp here) (mem_index_iff.mp there)

theorem isNone_lookup_index_iff [BEq α] [LawfulBEq α] {g : Grid α} {cell : α} :
    (g.index.lookup cell).isNone ↔ cell ∉ g.cells := by
  rw [mem_cells_iff_exists_get?, Option.isNone_iff_eq_none, Option.eq_none_iff_forall_ne_some,
    not_exists]
  simp only [ne_eq, lookup_index_eq_some_iff]

end LayoutCipher.Grid
