import Mathlib.Data.List.FinRange
import JsonSql.Proofs.SingleRecords

/-!
# Rearranged records

The order of the entries of a record has no part in how records are laid out, the
order of the records is the order of the rows and nothing else, and what stands behind
a null is not looked at.  The columns are a sorted list of the keys in use, so they
depend on which keys there are; the row of a record depends on the columns and on what
the record has under each of them.
-/

namespace JsonSql.Grid

inductive Rearranged : Json → Json → Prop
  | same (record : Json) : Rearranged record record
  | entries {first second : Record} : first.Perm second →
      Rearranged (.object first) (.object second)

namespace Rearranged

variable {first second : Json}

theorem isNull_eq (rearranged : Rearranged first second) : first.isNull = second.isNull := by
  cases rearranged <;> rfl

theorem keysOf_perm (rearranged : Rearranged first second) :
    (keysOf first).Perm (keysOf second) := by
  cases rearranged with
  | same => exact .refl _
  | entries same => exact same.map _

theorem get?_eq (rearranged : Rearranged first second) (distinct : (keysOf first).Nodup)
    (column : String) : first.get? column = second.get? column := by
  cases rearranged with
  | same => rfl
  | entries same => exact Record.get?_of_perm same distinct column

theorem rowOf_eq {columns : List String} (increasing : columns.Pairwise (· < ·))
    (rearranged : Rearranged first second) (distinct : (keysOf first).Nodup) :
    rowOf columns first = rowOf columns second := by
  have distinctToo : (keysOf second).Nodup := rearranged.keysOf_perm.nodup_iff.mp distinct
  rw [rowOf_eq_map increasing first distinct, rowOf_eq_map increasing second distinctToo]
  simp only [rearranged.get?_eq distinct]

end Rearranged

variable {records others : List Json}

theorem flatMap_keysOf_perm (rearranged : List.Forall₂ Rearranged records others) :
    (records.flatMap keysOf).Perm (others.flatMap keysOf) := by
  induction rearranged with
  | nil => exact .refl _
  | cons first _ ih =>
      rw [List.flatMap_cons, List.flatMap_cons]
      exact first.keysOf_perm.append ih

theorem flatMap_rowOf_eq {columns : List String} (increasing : columns.Pairwise (· < ·))
    (rearranged : List.Forall₂ Rearranged records others)
    (distinct : ∀ record ∈ records, (keysOf record).Nodup) :
    records.flatMap (rowOf columns) = others.flatMap (rowOf columns) := by
  induction rearranged with
  | nil => rfl
  | cons first _ ih =>
      obtain ⟨distinctFirst, distinctRest⟩ := List.forall_mem_cons.mp distinct
      rw [List.flatMap_cons, List.flatMap_cons, first.rowOf_eq increasing distinctFirst,
        ih distinctRest]

theorem rearranged_recordsIn (rearranged : List.Forall₂ Rearranged records others) :
    List.Forall₂ Rearranged (recordsIn (.array records)) (recordsIn (.array others)) := by
  induction rearranged with
  | nil => exact .nil
  | @cons record other _ _ first _ ih =>
      rw [recordsIn, recordsIn, List.takeWhile_cons, List.takeWhile_cons, ← first.isNull_eq]
      cases record.isNull with
      | true => exact .nil
      | false => exact .cons first ih

theorem columnUnion_of_perm (same : (records.flatMap keysOf).Perm (others.flatMap keysOf)) :
    columnUnion records = columnUnion others := by
  refine List.Pairwise.eq_of_mem_iff (pairwise_columnUnion _) (pairwise_columnUnion _) ?_
  intro column
  rw [mem_columnUnion, mem_columnUnion, ← List.mem_flatMap, ← List.mem_flatMap]
  exact same.mem_iff

theorem ofRecords_eq (records : List Json) :
    ofRecords records = ⟨columnUnion records, records.flatMap (rowOf (columnUnion records))⟩ := by
  rw [← cells_ofRecords, ofRecords]

theorem ofJson_array (filled : records ≠ []) :
    ofJson (.array records) =
      if columnUnion (recordsIn (.array records)) = [] then .error .noColumns
      else .ok (ofRecords (recordsIn (.array records))) := by
  obtain ⟨record, rest, rfl⟩ := List.exists_cons_of_ne_nil filled
  rfl

theorem ofJson_of_rearranged (rearranged : List.Forall₂ Rearranged records others)
    (distinct : ∀ record ∈ records, (keysOf record).Nodup) :
    ofJson (.array records) = ofJson (.array others) := by
  by_cases filled : records = []
  · subst filled
    cases rearranged
    rfl
  · have filledToo : others ≠ [] := by
      rintro rfl
      exact filled (List.forall₂_nil_right_iff.mp rearranged)
    have inside := rearranged_recordsIn rearranged
    have distinctInside : ∀ record ∈ recordsIn (.array records), (keysOf record).Nodup :=
      fun record member => distinct record ((List.takeWhile_sublist _).subset member)
    have columns := columnUnion_of_perm (flatMap_keysOf_perm inside)
    have cells := flatMap_rowOf_eq (pairwise_columnUnion (recordsIn (.array others))) inside
      distinctInside
    rw [ofJson_array filled, ofJson_array filledToo, ofRecords_eq, ofRecords_eq, columns, cells]

/-! ## Lists without nulls -/

theorem recordsIn_append_null (noNull : ∀ record ∈ records, record.isNull = false)
    (rest : List Json) : recordsIn (.array (records ++ .null :: rest)) = records := by
  rw [recordsIn, List.takeWhile_append_of_pos fun record member => by simp [noNull record member]]
  simp [Json.isNull]

theorem ofJson_append_null (filled : records ≠ [])
    (noNull : ∀ record ∈ records, record.isNull = false) (rest : List Json) :
    ofJson (.array (records ++ .null :: rest)) = ofJson (.array records) := by
  rw [ofJson_array filled, ofJson_array (by simp), recordsIn_append_null noNull,
    recordsIn_of_noNull noNull]

/-- At each place of the second list stands what the first one has at the place that
`order` names. -/
structure Reorders {count : Nat} (order : Equiv.Perm (Fin count)) (first second : List α) :
    Prop where
  length_first : first.length = count
  length_second : second.length = count
  getElem? : ∀ place : Fin count, second[place.val]? = first[(order place).val]?

namespace Reorders

variable {count : Nat} {order : Equiv.Perm (Fin count)} {first second : List α}

theorem perm (reorders : Reorders order first second) : second.Perm first := by
  obtain ⟨rfl, length, same⟩ := reorders
  have listed : second = List.ofFn (first.get ∘ order) := by
    apply List.ext_getElem?
    intro place
    by_cases valid : place < first.length
    · rw [same ⟨place, valid⟩, List.getElem?_ofFn, dif_pos valid]
      simp
    · rw [List.getElem?_eq_none (by omega), List.getElem?_eq_none (by simpa using valid)]
  have permuted := Equiv.Perm.ofFn_comp_perm order first.get
  rwa [← listed, List.ofFn_get] at permuted

theorem map (reorders : Reorders order first second) (f : α → β) :
    Reorders order (first.map f) (second.map f) where
  length_first := by rw [List.length_map, reorders.length_first]
  length_second := by rw [List.length_map, reorders.length_second]
  getElem? place := by rw [List.getElem?_map, List.getElem?_map, reorders.getElem? place]

end Reorders

variable {count : Nat} {order : Equiv.Perm (Fin count)}

theorem noNull_of_reorders (reorders : Reorders order records others)
    (noNull : ∀ record ∈ records, record.isNull = false) :
    ∀ record ∈ others, record.isNull = false :=
  fun record member => noNull record (reorders.perm.mem_iff.mp member)

theorem columnUnion_of_reorders (reorders : Reorders order records others) :
    columnUnion others = columnUnion records :=
  columnUnion_of_perm (reorders.perm.flatMap_right keysOf)

theorem ofJson_refused_iff_of_reorders (reorders : Reorders order records others)
    (noNull : ∀ record ∈ records, record.isNull = false) (cause : EmptyInput) :
    ofJson (.array records) = .error cause ↔ ofJson (.array others) = .error cause := by
  by_cases filled : records = []
  · subst filled
    rw [reorders.perm.eq_nil]
  · have filledToo : others ≠ [] := by
      rintro rfl
      exact filled reorders.perm.symm.eq_nil
    rw [ofJson_array filled, ofJson_array filledToo, recordsIn_of_noNull noNull,
      recordsIn_of_noNull (noNull_of_reorders reorders noNull),
      columnUnion_of_reorders reorders]
    split <;> simp

theorem rows_of_reorders (used : columnUnion records ≠ [])
    (reorders : Reorders order records others) :
    (∀ place : Fin count,
      (ofRecords others).row? place = (ofRecords records).row? (order place)) ∧
    Reorders order (ofRecords records).rows (ofRecords others).rows ∧
    Reorders order (ofRecords records).insertions (ofRecords others).insertions := by
  have columns : (ofRecords others).columns = (ofRecords records).columns :=
    columnUnion_of_reorders reorders
  have wide : (ofRecords records).columns ≠ [] := used
  have wideOther : (ofRecords others).columns ≠ [] := columns ▸ wide
  have cells := cells_ofRecords records
  have cellsOther := cells_ofRecords others
  refine ⟨?_, ?_, ?_⟩
  · intro place
    have valid : place.val < others.length := by
      rw [reorders.length_second]
      exact place.isLt
    have here : others[place.val]? = some others[place.val] := List.getElem?_eq_getElem valid
    have there := (reorders.getElem? place).symm.trans here
    rw [row?_of_cells cellsOther here, row?_of_cells cells there, columns]
  · rw [rows_of_cells wide cells, rows_of_cells wideOther cellsOther, columns]
    exact reorders.map _
  · rw [insertions_of_cells wide cells, insertions_of_cells wideOther cellsOther, columns]
    exact reorders.map _

theorem exists_grid_of_reorders (reorders : Reorders order records others)
    (noNull : ∀ record ∈ records, record.isNull = false) {grid : Grid}
    (made : ofJson (.array records) = .ok grid) :
    ∃ other, ofJson (.array others) = .ok other ∧ other.columns = grid.columns ∧
      (∀ place : Fin count, other.row? place = grid.row? (order place)) ∧
      Reorders order grid.rows other.rows ∧
      Reorders order grid.insertions other.insertions := by
  have columns := columnUnion_of_reorders reorders
  have first := ofJson_eq (.array records)
  have second := ofJson_eq (.array others)
  rw [recordsIn_of_noNull noNull, made] at first
  rw [recordsIn_of_noNull (noNull_of_reorders reorders noNull), columns] at second
  rcases first with ⟨-, cause, refused⟩ | ⟨used, same⟩
  · cases refused
  · obtain rfl : grid = ofRecords records := Except.ok.inj same
    rcases second with ⟨unused, -⟩ | ⟨-, madeOther⟩
    · exact absurd unused used
    · exact ⟨ofRecords others, madeOther, columns, rows_of_reorders used reorders⟩

/-- Laying out records does not depend on the order of their entries, follows the order
of the records, and ignores what stands behind a null.  Entries in another order give
the same grid or the same refusal.  A list without nulls in another order is refused
for the same reason, or has the same columns, and the rows and statements are reordered
like the records.  A null and all that follows it may be left out behind a record. -/
theorem layout_of_rearranged_records :
    (∀ records others, List.Forall₂ Rearranged records others →
      (∀ record ∈ records, (keysOf record).Nodup) →
        ofJson (.array records) = ofJson (.array others)) ∧
    (∀ count (order : Equiv.Perm (Fin count)) records others,
      Reorders order records others → (∀ record ∈ records, record.isNull = false) →
        (∀ cause, ofJson (.array records) = .error cause ↔
          ofJson (.array others) = .error cause) ∧
        ∀ grid, ofJson (.array records) = .ok grid →
          ∃ other, ofJson (.array others) = .ok other ∧ other.columns = grid.columns ∧
            (∀ place : Fin count, other.row? place = grid.row? (order place)) ∧
            Reorders order grid.rows other.rows ∧
            Reorders order grid.insertions other.insertions) ∧
    ∀ records rest, records ≠ [] → (∀ record ∈ records, record.isNull = false) →
      ofJson (.array (records ++ .null :: rest)) = ofJson (.array records) := by
  refine ⟨?_, ?_, ?_⟩
  · intro records others rearranged distinct
    exact ofJson_of_rearranged rearranged distinct
  · intro count order records others reorders noNull
    exact ⟨ofJson_refused_iff_of_reorders reorders noNull,
      fun grid made => exists_grid_of_reorders reorders noNull made⟩
  · intro records rest filled noNull
    exact ofJson_append_null filled noNull rest

def sortedRecords : List Json :=
  [.object [("b", .boolean true), ("a", .string "x")], .boolean false, .object [("c", .null)]]

def rotated : Equiv.Perm (Fin 3) where
  toFun place := place + 1
  invFun place := place + 2
  left_inv
    | 0 | 1 | 2 => rfl
  right_inv
    | 0 | 1 | 2 => rfl

def movedRecords : List Json :=
  [.boolean false, .object [("c", .null)], .object [("b", .boolean true), ("a", .string "x")]]

theorem movedRecords_laid_out :
    ofJson (.array sortedRecords) =
        ofJson (.array [.object [("a", .string "x"), ("b", .boolean true)], .boolean false,
          .object [("c", .null)]]) ∧
      Reorders rotated sortedRecords movedRecords ∧
      (∃ grid other, ofJson (.array sortedRecords) = .ok grid ∧
        ofJson (.array movedRecords) = .ok other ∧ other.columns = ["a", "b", "c"] ∧
        other.row? 1 = grid.row? 2 ∧ other.insertions[2]? = grid.insertions[0]?) ∧
      ofJson (.array (sortedRecords ++ .null :: [.object [("d", .null)]])) =
        ofJson (.array sortedRecords) := by
  obtain ⟨entries, order, behind⟩ := layout_of_rearranged_records
  have noNull : ∀ record ∈ sortedRecords, record.isNull = false := by decide
  have distinct : ∀ record ∈ sortedRecords, (keysOf record).Nodup := by decide
  have moved : Reorders rotated sortedRecords movedRecords := by
    refine ⟨rfl, rfl, fun place => ?_⟩
    match place with
    | 0 | 1 | 2 => rfl
  have made : ofJson (.array sortedRecords) = .ok (ofRecords sortedRecords) := rfl
  obtain ⟨other, madeOther, columns, row, -, statements⟩ := (order 3 _ _ _ moved noNull).2 _ made
  refine ⟨entries _ _ ?_ distinct, moved,
    ⟨_, other, made, madeOther, columns, row 1, statements.getElem? 2⟩,
    behind _ _ (by simp [sortedRecords]) noNull⟩
  exact .cons (.entries (.swap _ _ _)) (.cons (.same _) (.cons (.same _) .nil))

end JsonSql.Grid
