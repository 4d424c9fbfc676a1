import JsonSql.Proofs.Alignment

/-!
# Views of the cells of a grid

The rows of a grid, its height and the row at a place are worked out from the number
of cells and the width, each in its own way.  They agree for every list of columns but
the empty one, also for one that the cells were not laid out for: then the last row
may be short, is not counted in the height and is not found by its place.
-/

namespace JsonSql.Grid

section Slices

variable {α : Type} {width : Nat} (positive : 0 < width) (cells : List α)

include positive

theorem count_div_up (count : Nat) :
    (count + width - 1) / width =
      if width ∣ count then count / width else count / width + 1 := by
  have whole := Nat.div_add_mod count width
  have parts : count + width - 1 = width * (count / width) + (count % width + width - 1) := by
    omega
  rw [parts, Nat.mul_add_div positive]
  split
  · rename_i divides
    have noRow : (count % width + width - 1) / width = 0 := by
      rw [Nat.mod_eq_zero_of_dvd divides]
      exact Nat.div_eq_of_lt (by omega)
    omega
  · rename_i remains
    have rest := Nat.emod_pos_of_not_dvd remains
    have less := Nat.mod_lt count positive
    have oneRow : (count % width + width - 1) / width = 1 :=
      Nat.div_eq_of_lt_le (by omega) (by omega)
    omega

theorem lt_div_iff (index count : Nat) : index < count / width ↔ (index + 1) * width ≤ count :=
  Nat.le_div_iff_mul_le positive

theorem lt_div_up_iff (index count : Nat) :
    index < (count + width - 1) / width ↔ index * width < count := by
  rw [lt_div_iff positive, Nat.succ_mul]
  omega

theorem getElem?_slices (index : Nat) :
    (slices width cells)[index]? =
      if index * width < cells.length then some (slice cells width index) else none := by
  rw [slices, List.getElem?_map]
  split
  · rename_i inside
    rw [List.getElem?_range ((lt_div_up_iff positive index _).mpr inside), Option.map_some]
  · rename_i outside
    rw [List.getElem?_eq_none, Option.map_none]
    rw [List.length_range]
    exact not_lt.mp (mt (lt_div_up_iff positive index _).mp outside)

theorem flatten_slices : (slices width cells).flatten = cells := by
  have before (count : Nat) :
      ((List.range count).map (slice cells width)).flatten = cells.take (count * width) := by
    induction count with
    | zero => simp
    | succ count ih =>
        rw [List.range_succ, List.map_append, List.flatten_append, ih, Nat.succ_mul,
          List.take_add]
        simp [slice]
  rw [slices, before]
  apply List.take_of_length_le
  by_contra short
  have more := (lt_div_up_iff positive _ _).mpr (not_le.mp short)
  exact Nat.lt_irrefl _ more

end Slices

theorem length_slice (cells : List α) (width index : Nat) :
    (slice cells width index).length = min width (cells.length - index * width) := by
  rw [slice, List.length_take, List.length_drop]

section Views

variable {grid : Grid} (wide : grid.columns ≠ [])

include wide

theorem width_pos : 0 < grid.width := List.length_pos_iff.mpr wide

theorem rows_eq_slices : grid.rows = slices grid.width grid.cells := by
  rw [rows, max_eq_right (width_pos wide)]

theorem height_eq_div : grid.height = grid.cells.length / grid.width :=
  if_neg (by simpa using wide)

theorem lt_height_iff (index : Nat) :
    index < grid.height ↔ (index + 1) * grid.width ≤ grid.cells.length := by
  rw [height_eq_div wide, lt_div_iff (width_pos wide)]

theorem length_rows :
    grid.rows.length =
      if grid.width ∣ grid.cells.length then grid.cells.length / grid.width
      else grid.cells.length / grid.width + 1 := by
  rw [rows_eq_slices wide, slices, List.length_map, List.length_range,
    count_div_up (width_pos wide)]

theorem getElem?_rows (index : Nat) :
    grid.rows[index]? =
      if index * grid.width < grid.cells.length then some (slice grid.cells grid.width index)
      else none := by
  rw [rows_eq_slices wide, getElem?_slices (width_pos wide)]

theorem length_row {index : Nat} {row : List (Option String)}
    (here : grid.rows[index]? = some row) :
    row.length =
      if index + 1 = grid.rows.length ∧ ¬ grid.width ∣ grid.cells.length then
        grid.cells.length % grid.width
      else grid.width := by
  have positive := width_pos wide
  have count := length_rows wide
  rw [getElem?_rows wide] at here
  split at here
  case isFalse => cases here
  rename_i inside
  obtain rfl := Option.some.inj here
  rw [length_slice]
  by_cases full : (index + 1) * grid.width ≤ grid.cells.length
  · have early := (lt_div_iff positive index _).mpr full
    rw [Nat.succ_mul] at full
    rw [if_neg, Nat.min_eq_left (by omega)]
    rintro ⟨last, rest⟩
    rw [if_neg rest] at count
    omega
  · -- The cells end inside of this row, so it is the last one and holds the remainder.
    rw [Nat.succ_mul] at full
    have place : grid.cells.length / grid.width = index :=
      Nat.div_eq_of_lt_le (by omega) (by rw [Nat.succ_mul]; omega)
    have whole := Nat.div_add_mod' grid.cells.length grid.width
    rw [place] at whole count
    have rest : ¬ grid.width ∣ grid.cells.length := by
      intro divides
      have noRest := Nat.mod_eq_zero_of_dvd divides
      omega
    rw [if_neg rest] at count
    rw [if_pos ⟨count.symm, rest⟩]
    omega

theorem row?_of_lt_height {index : Nat} (inside : index < grid.height) :
    ∃ row, grid.rows[index]? = some row ∧ grid.row? index = some row := by
  have full := (lt_height_iff wide index).mp inside
  have begins : index * grid.width < grid.cells.length := by
    have positive := width_pos wide
    rw [Nat.succ_mul] at full
    omega
  refine ⟨slice grid.cells grid.width index, ?_, ?_⟩
  · rw [getElem?_rows wide, if_pos begins]
  · rw [row?, if_pos full]

theorem row?_of_height_le {index : Nat} (outside : grid.height ≤ index) :
    grid.row? index = none := by
  rw [row?, if_neg]
  rw [← lt_height_iff wide]
  exact not_lt.mpr outside

theorem isEmpty_iff : grid.isEmpty = true ↔ grid.row? 0 = none := by
  rw [isEmpty, beq_iff_eq]
  constructor
  · intro flat
    exact row?_of_height_le wide flat.le
  · intro missing
    by_contra tall
    obtain ⟨row, -, here⟩ := row?_of_lt_height wide (Nat.pos_of_ne_zero tall)
    rw [missing] at here
    cases here

end Views

/-- How the views of a grid describe its cells, each other and the statements. -/
structure ViewsAgree (grid : Grid) : Prop where
  flatten_rows : grid.rows.flatten = grid.cells
  length_rows : grid.rows.length =
    if grid.width ∣ grid.cells.length then grid.cells.length / grid.width
    else grid.cells.length / grid.width + 1
  length_row : ∀ index row, grid.rows[index]? = some row →
    row.length =
      if index + 1 = grid.rows.length ∧ ¬ grid.width ∣ grid.cells.length then
        grid.cells.length % grid.width
      else grid.width
  height : grid.height = grid.cells.length / grid.width
  row?_inside : ∀ index < grid.height,
    ∃ row, grid.rows[index]? = some row ∧ grid.row? index = some row
  row?_outside : ∀ index, grid.height ≤ index → grid.row? index = none
  isEmpty_iff : grid.isEmpty = true ↔ grid.row? 0 = none
  length_insertions : grid.insertions.length = grid.rows.length
  insertions : ∀ (index : Nat) row, grid.rows[index]? = some row →
    grid.insertions[index]? = some (.insert grid.columns row)

theorem viewsAgree {grid : Grid} (wide : grid.columns ≠ []) : grid.ViewsAgree where
  flatten_rows := by
    rw [rows_eq_slices wide]
    exact flatten_slices (width_pos wide) grid.cells
  length_rows := length_rows wide
  length_row _ _ := length_row wide
  height := height_eq_div wide
  row?_inside _ := row?_of_lt_height wide
  row?_outside _ := row?_of_height_le wide
  isEmpty_iff := isEmpty_iff wide
  length_insertions := by rw [Grid.insertions, List.length_map]
  insertions index row here := by rw [Grid.insertions, List.getElem?_map, here, Option.map_some]

/-! ## Views of records laid out -/

theorem length_cells_of_ofJson {records : Json} {grid : Grid}
    (made : ofJson records = .ok grid) :
    grid.cells.length = (recordsIn records).length * grid.width := by
  obtain ⟨-, -, cells⟩ := columns_cells_of_ofJson made
  rw [cells, length_flatMap_rowOf, width]

theorem recordsIn_ne_nil_of_ofJson {records : Json} {grid : Grid}
    (made : ofJson records = .ok grid) : recordsIn records ≠ [] := by
  obtain ⟨wide, columns, -⟩ := columns_cells_of_ofJson made
  intro empty
  rw [empty] at columns
  exact wide columns

theorem full_rows_of_ofJson {records : Json} {grid : Grid} (made : ofJson records = .ok grid) :
    grid.width ∣ grid.cells.length ∧ 0 < grid.height ∧ grid.rows.length = grid.height ∧
      (∀ row ∈ grid.rows, row.length = grid.width) ∧
      ∀ index, grid.row? index = grid.rows[index]? := by
  obtain ⟨wide, -, cells⟩ := columns_cells_of_ofJson made
  have divides : grid.width ∣ grid.cells.length := by
    rw [length_cells_of_ofJson made]
    exact Nat.dvd_mul_left _ _
  have count : grid.rows.length = grid.height := by
    rw [length_rows wide, if_pos divides, height_eq_div wide]
  refine ⟨divides, ?_, count, ?_, ?_⟩
  · rw [height_of_cells wide cells]
    exact List.length_pos_iff.mpr (recordsIn_ne_nil_of_ofJson made)
  · intro row member
    obtain ⟨index, here⟩ := List.mem_iff_getElem?.mp member
    rw [length_row wide here, if_neg fun last => last.2 divides]
  · intro index
    rcases Nat.lt_or_ge index grid.height with inside | outside
    · obtain ⟨row, listed, found⟩ := row?_of_lt_height wide inside
      rw [listed, found]
    · rw [row?_of_height_le wide outside, List.getElem?_eq_none (count.trans_le outside)]

/-- The views of the cells agree, for any columns but the empty list, whether or not the
cells were laid out for them.  In a grid made from records the width divides the number
of cells, so that the height, the rows, the row at a place and the statements all
describe the same full rows, and there is at least one. -/
theorem views_agree_and_rows_full :
    (∀ grid : Grid, grid.columns ≠ [] → grid.ViewsAgree) ∧
    ∀ records grid, ofJson records = .ok grid →
      grid.ViewsAgree ∧ grid.width ∣ grid.cells.length ∧ 0 < grid.height ∧
        grid.rows.length = grid.height ∧ (∀ row ∈ grid.rows, row.length = grid.width) ∧
        ∀ index, grid.row? index = grid.rows[index]? := by
  constructor
  · intro grid wide
    exact viewsAgree wide
  · intro records grid made
    exact ⟨viewsAgree (columns_cells_of_ofJson made).1, full_rows_of_ofJson made⟩

/-- The cells of two records, over fewer columns than they were laid out for. -/
def narrowedGrid : Grid where
  columns := ["b", "c"]
  cells := [some "1", none, some "2", none, some "3"]

def patchyRecords : List Json :=
  [.object [("a", .null)], .object [("b", .boolean true)], .object [("a", .string "x")]]

theorem narrowedGrid_views_agree :
    narrowedGrid.columns ≠ [] ∧ narrowedGrid.rows.length = 3 ∧ narrowedGrid.height = 2 ∧
      (∀ row, narrowedGrid.rows[2]? = some row → row.length = 1) ∧
      narrowedGrid.row? 2 = none ∧
      ∃ grid, ofJson (.array patchyRecords) = .ok grid ∧ grid.height = 3 ∧
        grid.rows.length = 3 ∧
        (∃ row, grid.row? 1 = some row ∧ grid.rows[1]? = some row ∧ row.length = 2) ∧
        grid.row? 3 = none ∧ grid.row? 7 = grid.rows[7]? := by
  have wide : narrowedGrid.columns ≠ [] := by decide
  have made : ofJson (.array patchyRecords) = .ok (ofRecords patchyRecords) := rfl
  obtain ⟨every, laidOut⟩ := views_agree_and_rows_full
  have agree := every narrowedGrid wide
  obtain ⟨views, -, -, count, full, found⟩ := laidOut _ _ made
  have height : (ofRecords patchyRecords).height = 3 := by
    obtain ⟨someColumn, -, cells⟩ := columns_cells_of_ofJson made
    exact height_of_cells someColumn cells
  have width : (ofRecords patchyRecords).width = 2 := by decide
  refine ⟨wide, agree.length_rows, agree.height, ?_, agree.row?_outside 2 ?_,
    _, made, height, count.trans height, ?_, views.row?_outside 3 height.le, found 7⟩
  · intro row here
    exact agree.length_row 2 row here
  · exact agree.height.le
  · obtain ⟨row, listed, here⟩ := views.row?_inside 1 (by omega)
    exact ⟨row, here, listed, (full row (List.mem_of_getElem? listed)).trans width⟩

end JsonSql.Grid
