import LayoutCipher.Proofs.Grid.Index
import LayoutCipher.Proofs.Operation.Rearrangement
import LayoutCipher.Retype
import Mathlib.Data.Set.Function

/-!
# Substitutions

Typing on one layout and reading on another replaces every character by a fixed one.  Between
rearranged layouts this is a permutation of the keys: substitutions compose along three layouts,
and the way back undoes the way there.
-/

namespace LayoutCipher.Layout

open Grid (Coordinate)

/-! ## Characters -/

/-- The character that replaces `c` when what is typed on one layout is read on another.  A
character without a counterpart stays. -/
def substitution (base other : Layout) (c : Char) : Char :=
  (counterpart? base.index other c).getD c

section

variable {base middle other : Layout} {place : Coordinate} {c : Char}

theorem counterpart?_of_get?_eq_some (typed : base.get? place = some c) :
    counterpart? base.index other c = other.get? place := by
  rw [counterpart?, Grid.lookup_index_eq_some_iff.mpr typed]
  rfl

theorem get?_eq_substitution (rearranged : base.Rearranges other)
    (typed : base.get? place = some c) : other.get? place = some (substitution base other c) := by
  have reached := rearranged.reaches_iff.mpr (Grid.reaches_of_get?_eq_some typed)
  obtain ⟨key, read⟩ := Grid.exists_get?_eq_some reached
  rw [substitution, counterpart?_of_get?_eq_some typed, read]
  rfl

theorem counterpart?_eq_substitution (rearranged : base.Rearranges other) (mem : c ∈ base.cells) :
    counterpart? base.index other c = some (substitution base other c) := by
  obtain ⟨place, typed⟩ := Grid.mem_cells_iff_exists_get?.mp mem
  rw [counterpart?_of_get?_eq_some typed, get?_eq_substitution rearranged typed]

theorem substitution_mem_cells (rearranged : base.Rearranges other) (mem : c ∈ base.cells) :
    substitution base other c ∈ base.cells := by
  obtain ⟨place, typed⟩ := Grid.mem_cells_iff_exists_get?.mp mem
  exact rearranged.mem_cells_iff.mp
    (Grid.mem_cells_iff_exists_get?.mpr ⟨place, get?_eq_substitution rearranged typed⟩)

theorem substitution_self (mem : c ∈ base.cells) : substitution base base c = c := by
  obtain ⟨place, typed⟩ := Grid.mem_cells_iff_exists_get?.mp mem
  exact Option.some.inj ((get?_eq_substitution (.refl base) typed).symm.trans typed)

theorem substitution_trans (first : base.Rearranges middle) (second : middle.Rearranges other)
    (mem : c ∈ base.cells) :
    substitution middle other (substitution base middle c) = substitution base other c := by
  obtain ⟨place, typed⟩ := Grid.mem_cells_iff_exists_get?.mp mem
  have between := get?_eq_substitution first typed
  exact Option.some.inj ((get?_eq_substitution second between).symm.trans
    (get?_eq_substitution (first.trans second) typed))

/-- Going over to a rearranged layout permutes the keys. -/
theorem bijOn_substitution (rearranged : base.Rearranges other) :
    Set.BijOn (substitution base other) {c | c ∈ base.cells} {c | c ∈ base.cells} := by
  have cells : {c | c ∈ other.cells} = {c | c ∈ base.cells} :=
    Set.ext fun _ => rearranged.mem_cells_iff
  have back : Set.MapsTo (substitution other base) {c | c ∈ base.cells} {c | c ∈ base.cells} := by
    rw [← cells]
    intro c mem
    exact substitution_mem_cells rearranged.symm mem
  have inverse : Set.InvOn (substitution other base) (substitution base other)
      {c | c ∈ base.cells} {c | c ∈ base.cells} := by
    constructor
    · intro c mem
      rw [substitution_trans rearranged rearranged.symm mem, substitution_self mem]
    · intro c mem
      have there : c ∈ other.cells := rearranged.mem_cells_iff.mpr mem
      rw [substitution_trans rearranged.symm rearranged there, substitution_self there]
  exact inverse.bijOn (fun _ => substitution_mem_cells rearranged) back

end

/-! ## Texts -/

section

variable {base middle other : Layout} {input : String}

theorem mem_cells_of_mem_map_substitution (rearranged : base.Rearranges other)
    (typable : ∀ c ∈ input.toList, c ∈ base.cells) :
    ∀ c ∈ (input.map (substitution base other)).toList, c ∈ base.cells := by
  rw [String.toList_map]
  intro c mem
  obtain ⟨typed, typed_mem, rfl⟩ := List.mem_map.mp mem
  exact substitution_mem_cells rearranged (typable typed typed_mem)

theorem map_substitution_self (typable : ∀ c ∈ input.toList, c ∈ base.cells) :
    input.map (substitution base base) = input := by
  apply String.toList_inj.mp
  rw [String.toList_map]
  calc input.toList.map (substitution base base)
      = input.toList.map id :=
        List.map_congr_left fun c mem => substitution_self (typable c mem)
    _ = input.toList := List.map_id _

theorem map_map_eq_map {f g h : Char → Char} (same : ∀ c ∈ input.toList, g (f c) = h c) :
    (input.map f).map g = input.map h := by
  apply String.toList_inj.mp
  rw [String.toList_map, String.toList_map, String.toList_map, List.map_map]
  exact List.map_congr_left same

theorem map_substitution_trans (first : base.Rearranges middle) (second : middle.Rearranges other)
    (typable : ∀ c ∈ input.toList, c ∈ base.cells) :
    (input.map (substitution base middle)).map (substitution middle other) =
      input.map (substitution base other) :=
  map_map_eq_map fun c mem => substitution_trans first second (typable c mem)

theorem map_substitution_injective {first second : String} (rearranged : base.Rearranges other)
    (typable : ∀ c ∈ first.toList, c ∈ base.cells)
    (typable' : ∀ c ∈ second.toList, c ∈ base.cells)
    (same : first.map (substitution base other) = second.map (substitution base other)) :
    first = second := by
  calc first
      = (first.map (substitution base other)).map (substitution other base) := by
        rw [map_substitution_trans rearranged rearranged.symm typable,
          map_substitution_self typable]
    _ = (second.map (substitution base other)).map (substitution other base) := by rw [same]
    _ = second := by
        rw [map_substitution_trans rearranged rearranged.symm typable',
          map_substitution_self typable']

end

end LayoutCipher.Layout
