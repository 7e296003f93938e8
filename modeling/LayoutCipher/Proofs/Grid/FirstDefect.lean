import LayoutCipher.Proofs.Grid.Construction
import Mathlib.Data.Prod.Lex
import Mathlib.Order.Bounds.Basic

/-!
# The first defect of a list of rows

Rows are scanned in steps: step 0 of a row measures it, step `j + 1` looks at its cell `j`.
`ShowsAt` says at which steps a list of rows has defects, each step by itself, and the scan reports
the least step in the lexicographic order of row and step.  So a repeated cell wins over a ragged
row further down, and a ragged row over the repeated cells in it.

The scan carries along the cells it has seen.  Its invariant is that these are the cells of the rows
above, and that no defect shows there.
-/

namespace LayoutCipher.Grid

variable {α : Type}

/-! ## Steps -/

/-- The cell at a place of a list of rows, whatever their lengths. -/
def cellAt? (rows : List (List α)) (r j : Nat) : Option α :=
  rows[r]?.bind (·[j]?)

/-- The cell at a place equals a cell before it in reading order. -/
def RepeatsAt (rows : List (List α)) (r j : Nat) : Prop :=
  ∃ cell, cellAt? rows r j = some cell ∧
    ∃ r' j', toLex (r', j') < toLex (r, j) ∧ cellAt? rows r' j' = some cell

/-- A step of the scan has a defect to report. -/
inductive ShowsAt (rows : List (List α)) : Nat → Nat → Defect → Prop where
  | emptyRow {r : Nat} (here : rows[r]? = some []) : ShowsAt rows r 0 (.emptyRow r)
  | ragged {r : Nat} {first cells : List α} (top : rows[0]? = some first)
      (here : rows[r]? = some cells) (nonempty : cells ≠ [])
      (other : cells.length ≠ first.length) :
      ShowsAt rows r 0 (.ragged r first.length cells.length)
  | duplicateCell {r j : Nat} (repeats : RepeatsAt rows r j) :
      ShowsAt rows r (j + 1) (.duplicateCell r j)

/-- The defect shows at the least step that has any. -/
def FirstDefect (rows : List (List α)) (defect : Defect) : Prop :=
  ∃ r step, ShowsAt rows r step defect ∧
    IsLeast {place : Nat ×ₗ Nat | ∃ other, ShowsAt rows (ofLex place).1 (ofLex place).2 other}
      (toLex (r, step))

variable {rows above rest : List (List α)} {first cells seen : List α} {r j step : Nat}
  {defect other : Defect}

theorem ShowsAt.unique (shows : ShowsAt rows r step defect) (shows' : ShowsAt rows r step other) :
    defect = other := by
  cases shows with
  | emptyRow here =>
      cases shows' with
      | emptyRow _ => rfl
      | ragged _ here' nonempty _ => simp_all
  | ragged top here nonempty _ =>
      cases shows' with
      | emptyRow here' => simp_all
      | ragged top' here' _ _ => simp_all
  | duplicateCell _ =>
      cases shows' with
      | duplicateCell _ => rfl

theorem FirstDefect.unique (shown : FirstDefect rows defect) (shown' : FirstDefect rows other) :
    defect = other := by
  obtain ⟨r, step, shows, least⟩ := shown
  obtain ⟨r', step', shows', least'⟩ := shown'
  obtain ⟨rfl, rfl⟩ : r = r' ∧ step = step' := by simpa using least.unique least'
  exact shows.unique shows'

theorem ShowsAt.lt_length (shows : ShowsAt rows r step defect) : r < rows.length := by
  have inside {cells : List α} (here : rows[r]? = some cells) : r < rows.length :=
    (List.getElem?_eq_some_iff.mp here).1
  cases shows with
  | emptyRow here => exact inside here
  | ragged _ here _ _ => exact inside here
  | duplicateCell repeats =>
      obtain ⟨cell, here, _⟩ := repeats
      obtain ⟨cells, found, _⟩ := Option.bind_eq_some_iff.mp here
      exact inside found

/-- No defect shows above a row. -/
def SoundAbove (rows : List (List α)) (r : Nat) : Prop :=
  ∀ r' step defect, ShowsAt rows r' step defect → r ≤ r'

theorem soundAbove_zero (rows : List (List α)) : SoundAbove rows 0 :=
  fun _ _ _ _ => Nat.zero_le _

theorem SoundAbove.succ (sound : SoundAbove rows r)
    (none : ∀ step defect, ¬ ShowsAt rows r step defect) : SoundAbove rows (r + 1) := by
  intro r' step defect shows
  refine Nat.lt_of_le_of_ne (sound r' step defect shows) ?_
  rintro rfl
  exact none step defect shows

theorem SoundAbove.not_showsAt (sound : SoundAbove rows rows.length) :
    ¬ ShowsAt rows r step defect :=
  fun shows => Nat.not_lt_of_le (sound r step defect shows) shows.lt_length

theorem SoundAbove.firstDefect (sound : SoundAbove rows r) (shows : ShowsAt rows r step defect)
    (least : ∀ step' other, ShowsAt rows r step' other → step ≤ step') :
    FirstDefect rows defect := by
  refine ⟨r, step, shows, ⟨defect, shows⟩, ?_⟩
  rintro place ⟨other, shows'⟩
  rw [← toLex_ofLex place, Prod.Lex.toLex_le_toLex]
  rcases Nat.eq_or_lt_of_le (sound _ _ _ shows') with same | below
  · refine .inr ⟨same, least _ other ?_⟩
    rwa [same]
  · exact .inl below

/-! ## Repeated cells -/

/-- The cells before a place in reading order are those of the rows above and those to the left. -/
theorem exists_before_iff (here : rows[r]? = some cells) {cell : α} :
    (∃ r' j', toLex (r', j') < toLex (r, j) ∧ cellAt? rows r' j' = some cell) ↔
      cell ∈ (rows.take r).flatten ++ cells.take j := by
  constructor
  · rintro ⟨r', j', before, found⟩
    obtain ⟨row, found, same⟩ := Option.bind_eq_some_iff.mp found
    rcases Prod.Lex.toLex_lt_toLex.mp before with above | ⟨rfl, left⟩
    · refine List.mem_append_left _ (List.mem_flatten.mpr ⟨row, ?_, List.mem_of_getElem? same⟩)
      exact List.mem_of_getElem? ((List.getElem?_take_of_lt above).trans found)
    · obtain rfl : cells = row := Option.some.inj (here.symm.trans found)
      exact List.mem_append_right _
        (List.mem_of_getElem? ((List.getElem?_take_of_lt left).trans same))
  · intro mem
    rcases List.mem_append.mp mem with above | left
    · obtain ⟨row, found, same⟩ := List.mem_flatten.mp above
      obtain ⟨r', found⟩ := List.mem_iff_getElem?.mp found
      obtain ⟨j', same⟩ := List.mem_iff_getElem?.mp same
      obtain ⟨above, found⟩ : r' < r ∧ rows[r']? = some row := by
        simpa [List.getElem?_take] using found
      exact ⟨r', j', Prod.Lex.toLex_lt_toLex.mpr (.inl above), by simp [cellAt?, found, same]⟩
    · obtain ⟨j', same⟩ := List.mem_iff_getElem?.mp left
      obtain ⟨left, same⟩ : j' < j ∧ cells[j']? = some cell := by
        simpa [List.getElem?_take] using same
      exact ⟨r, j', Prod.Lex.toLex_lt_toLex.mpr (.inr ⟨rfl, left⟩), by simp [cellAt?, here, same]⟩

/-- A cell equals one of the cells that have been seen, or one to its left. -/
def RepeatsIn (seen cells : List α) (j : Nat) : Prop :=
  ∃ cell, cells[j]? = some cell ∧ cell ∈ seen ++ cells.take j

theorem repeatsAt_iff (here : rows[r]? = some cells) :
    RepeatsAt rows r j ↔ RepeatsIn (rows.take r).flatten cells j := by
  simp only [RepeatsAt, RepeatsIn, exists_before_iff here]
  simp only [cellAt?, here, Option.bind_some]

theorem repeatsIn_zero {cell : α} : RepeatsIn seen (cell :: cells) 0 ↔ cell ∈ seen := by
  simp [RepeatsIn]

theorem repeatsIn_succ {cell : α} :
    RepeatsIn seen (cell :: cells) (j + 1) ↔ RepeatsIn (seen ++ [cell]) cells j := by
  simp [RepeatsIn]

/-- In a row that is as long as the first only cells that repeat show defects. -/
theorem showsAt_iff (top : rows[0]? = some first) (here : rows[r]? = some cells)
    (nonempty : cells ≠ []) (fits : cells.length = first.length) :
    ShowsAt rows r step defect ↔
      ∃ j, step = j + 1 ∧ defect = .duplicateCell r j ∧
        RepeatsIn (rows.take r).flatten cells j := by
  constructor
  · intro shows
    cases shows with
    | emptyRow here' => simp_all
    | ragged top' here' _ other => simp_all
    | duplicateCell repeats => exact ⟨_, rfl, rfl, (repeatsAt_iff here).mp repeats⟩
  · rintro ⟨j, rfl, rfl, repeats⟩
    exact .duplicateCell ((repeatsAt_iff here).mpr repeats)

/-! ## The scan -/

variable [DecidableEq α]

theorem not_repeatsIn_of_firstRepeat?_eq_none (none : firstRepeat? seen cells = none) (j : Nat) :
    ¬ RepeatsIn seen cells j := by
  induction cells generalizing seen j with
  | nil => simp [RepeatsIn]
  | cons cell rest ih =>
      by_cases mem : cell ∈ seen
      · simp [firstRepeat?, mem] at none
      · cases j with
        | zero => rwa [repeatsIn_zero]
        | succ j =>
            rw [repeatsIn_succ]
            exact ih (by simpa [firstRepeat?, mem] using none) j

theorem isLeast_of_firstRepeat?_eq_some (found : firstRepeat? seen cells = some j) :
    IsLeast {j | RepeatsIn seen cells j} j := by
  induction cells generalizing seen j with
  | nil => cases found
  | cons cell rest ih =>
      by_cases mem : cell ∈ seen
      · obtain rfl : 0 = j := by simpa [firstRepeat?, mem] using found
        exact ⟨repeatsIn_zero.mpr mem, fun _ _ => Nat.zero_le _⟩
      · obtain ⟨i, later, rfl⟩ : ∃ i, firstRepeat? (seen ++ [cell]) rest = some i ∧ i + 1 = j := by
          simpa [firstRepeat?, mem] using found
        obtain ⟨repeats, least⟩ := ih later
        refine ⟨repeatsIn_succ.mpr repeats, fun k repeats' => ?_⟩
        cases k with
        | zero => exact absurd (repeatsIn_zero.mp repeats') mem
        | succ k => exact Nat.succ_le_succ (least (repeatsIn_succ.mp repeats'))

/-- What a scan may come to: the first defect, or nothing where no defect shows. -/
inductive Scanned (rows : List (List α)) : Option Defect → Prop where
  | sound (sound : SoundAbove rows rows.length) : Scanned rows none
  | found {defect : Defect} (first : FirstDefect rows defect) : Scanned rows (some defect)

theorem scanned_firstDefectFrom? (split : rows = above ++ rest) (top : rows[0]? = some first)
    (sound : SoundAbove rows above.length) :
    Scanned rows (firstDefectFrom? first.length above.length above.flatten rest) := by
  induction rest generalizing above with
  | nil =>
      obtain rfl : rows = above := by simpa using split
      exact .sound sound
  | cons cells rest ih =>
      have here : rows[above.length]? = some cells := by simp [split]
      by_cases isEmpty : cells = []
      · subst isEmpty
        rw [firstDefectFrom?, if_pos rfl]
        exact .found (sound.firstDefect (.emptyRow here) fun _ _ _ => Nat.zero_le _)
      by_cases fits : cells.length = first.length
      · have seen_eq : (rows.take above.length).flatten = above.flatten := by simp [split]
        have inRow {step : Nat} {defect : Defect} : ShowsAt rows above.length step defect ↔
            ∃ j, step = j + 1 ∧ defect = .duplicateCell above.length j ∧
              RepeatsIn above.flatten cells j := by
          rw [showsAt_iff top here isEmpty fits, seen_eq]
        rw [firstDefectFrom?, if_neg isEmpty, if_neg (not_not_intro fits)]
        cases repeated : firstRepeat? above.flatten cells with
        | some column =>
            obtain ⟨repeats, least⟩ := isLeast_of_firstRepeat?_eq_some repeated
            refine .found (sound.firstDefect (inRow.mpr ⟨column, rfl, rfl, repeats⟩) ?_)
            intro step other shows
            obtain ⟨j, rfl, _, repeats'⟩ := inRow.mp shows
            exact Nat.succ_le_succ (least repeats')
        | none =>
            -- the row has no defect of its own, and the scan goes on below it
            have grown : SoundAbove rows (above ++ [cells]).length := by
              rw [List.length_append]
              refine sound.succ fun step defect shows => ?_
              obtain ⟨j, _, _, repeats⟩ := inRow.mp shows
              exact not_repeatsIn_of_firstRepeat?_eq_none repeated j repeats
            simpa using ih (by simp [split]) grown
      · rw [firstDefectFrom?, if_neg isEmpty, if_pos fits]
        exact .found (sound.firstDefect (.ragged top here isEmpty fits) fun _ _ _ => Nat.zero_le _)

theorem scanned_firstDefect? (nonempty : rows ≠ []) : Scanned rows (firstDefect? rows) := by
  obtain ⟨first, rest, rfl⟩ := List.exists_cons_of_ne_nil nonempty
  have split : first :: rest = [] ++ first :: rest := rfl
  exact scanned_firstDefectFrom? split rfl (soundAbove_zero _)

/-! ## Construction -/

theorem ofRows_eq_error_iff : ofRows rows = .error defect ↔ firstDefect? rows = some defect := by
  unfold ofRows
  split
  · next found => simp [found]
  · next none => simp [none]

theorem firstDefect?_eq_some_iff (nonempty : rows ≠ []) :
    firstDefect? rows = some defect ↔ FirstDefect rows defect := by
  have scanned := scanned_firstDefect? nonempty
  constructor
  · intro found
    rw [found] at scanned
    cases scanned with
    | found first => exact first
  · intro first
    cases ended : firstDefect? rows with
    | none =>
        rw [ended] at scanned
        obtain ⟨r, step, shows, _⟩ := first
        cases scanned with
        | sound sound => exact absurd shows sound.not_showsAt
    | some other =>
        rw [ended] at scanned
        cases scanned with
        | found first' => rw [first'.unique first]

theorem ofRows_eq_error_iff_of_ne_nil (nonempty : rows ≠ []) :
    ofRows rows = .error defect ↔ FirstDefect rows defect := by
  rw [ofRows_eq_error_iff, firstDefect?_eq_some_iff nonempty]

theorem not_showsAt_rows (g : Grid α) : ¬ ShowsAt g.rows r step defect := by
  have scanned := scanned_firstDefect? g.rows_ne_nil
  rw [firstDefect?_rows] at scanned
  cases scanned with
  | sound sound => exact sound.not_showsAt

theorem exists_ofRows_eq_ok_iff :
    (∃ g, ofRows rows = .ok g) ↔
      rows ≠ [] ∧ (∃ width, 0 < width ∧ ∀ cells ∈ rows, cells.length = width) ∧
        rows.flatten.Nodup := by
  simp only [ofRows_eq_ok_iff]
  constructor
  · rintro ⟨g, rfl⟩
    exact ⟨g.rows_ne_nil, ⟨g.width, g.width_pos, g.length_of_mem⟩, g.nodup⟩
  · rintro ⟨nonempty, ⟨width, pos, length_of_mem⟩, distinct⟩
    exact ⟨⟨rows, width, nonempty, pos, length_of_mem, distinct⟩, rfl⟩

/-- Building a grid accepts exactly the rectangular lists of rows without a cell twice, at least one
row by one column, and leaves them as they are.  All others are refused: the list without rows for
being empty, any other for the first defect that shows when it is scanned. -/
theorem ofRows_eq_error_iff_firstDefect (rows : List (List α)) :
    (ofRows rows = .error .empty ↔ rows = []) ∧
    (rows ≠ [] → ∀ defect, ofRows rows = .error defect ↔ FirstDefect rows defect) ∧
    ((∃ g, ofRows rows = .ok g) ↔ rows ≠ [] ∧ ∀ r step defect, ¬ ShowsAt rows r step defect) ∧
    ((∃ g, ofRows rows = .ok g) ↔
      rows ≠ [] ∧ (∃ width, 0 < width ∧ ∀ cells ∈ rows, cells.length = width) ∧
        rows.flatten.Nodup) ∧
    ∀ g, ofRows rows = .ok g → g.rows = rows := by
  refine ⟨⟨fun refused => ?_, ?_⟩, fun nonempty defect => ofRows_eq_error_iff_of_ne_nil nonempty,
    ⟨?_, ?_⟩, exists_ofRows_eq_ok_iff, fun g => rows_eq_of_ofRows_eq_ok⟩
  · by_contra nonempty
    obtain ⟨_, _, shows, _⟩ := (ofRows_eq_error_iff_of_ne_nil nonempty).mp refused
    cases shows
  · rintro rfl
    rfl
  · rintro ⟨g, built⟩
    obtain rfl := rows_eq_of_ofRows_eq_ok built
    exact ⟨g.rows_ne_nil, fun r step defect => g.not_showsAt_rows⟩
  · rintro ⟨nonempty, sound⟩
    cases ended : ofRows rows with
    | ok g => exact ⟨g, rfl⟩
    | error defect =>
        obtain ⟨r, step, shows, _⟩ := (ofRows_eq_error_iff_of_ne_nil nonempty).mp ended
        exact absurd shows (sound r step defect)

/-- A repeated cell wins over the short row below it, a long row over the repeated cells in it, and
an empty row over all that is below; rows without a defect are kept. -/
theorem ofRows_eq_error_iff_firstDefect_mixed :
    FirstDefect [[1, 2], [3, 1], [4]] (.duplicateCell 1 1) ∧
      FirstDefect [[1, 2], [3, 3, 1]] (.ragged 1 2 3) ∧
      FirstDefect [[1, 2], [], [1]] (.emptyRow 1) ∧
      ∃ g, ofRows [[1, 2], [3, 4]] = .ok g ∧ g.rows = [[1, 2], [3, 4]] := by
  have repeated := (ofRows_eq_error_iff_firstDefect [[1, 2], [3, 1], [4]]).2.1
  have long := (ofRows_eq_error_iff_firstDefect [[1, 2], [3, 3, 1]]).2.1
  have missing := (ofRows_eq_error_iff_firstDefect [[1, 2], [], [1]]).2.1
  obtain ⟨_, _, _, accepts, keeps⟩ := ofRows_eq_error_iff_firstDefect [[1, 2], [3, 4]]
  obtain ⟨g, built⟩ := accepts.mpr ⟨by decide, ⟨2, by decide, by decide⟩, by decide⟩
  exact ⟨(repeated (by decide) _).mp rfl, (long (by decide) _).mp rfl,
    (missing (by decide) _).mp rfl, g, built, keeps g built⟩

end LayoutCipher.Grid
