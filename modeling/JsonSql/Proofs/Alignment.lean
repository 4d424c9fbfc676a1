import Mathlib.Data.String.Basic
import JsonSql.Statement

/-!
# Alignment of records

Laying out records puts every value into the row of its record and the cell of
its column, and leaves all other cells empty.  The columns are the keys in use,
in increasing order, so that halving finds each; writing a record touches no
row but its own, so that the cells are the rows of the records one after
another, and cutting them by width gives the rows back.
-/

namespace JsonSql.Grid

theorem mem_insertColumn {other column : String} {columns : List String} :
    other ∈ insertColumn column columns ↔ other = column ∨ other ∈ columns := by
  induction columns with
  | nil => simp [insertColumn]
  | cons next columns ih =>
      rw [insertColumn]
      split
      · simp
      · split
        · rename_i same
          simp [same]
        · simp only [List.mem_cons, ih]
          tauto

theorem pairwise_insertColumn {column : String} {columns : List String}
    (increasing : columns.Pairwise (· < ·)) :
    (insertColumn column columns).Pairwise (· < ·) := by
  induction columns with
  | nil => exact List.pairwise_singleton _ _
  | cons next columns ih =>
      obtain ⟨least, rest⟩ := List.pairwise_cons.mp increasing
      rw [insertColumn]
      split
      · rename_i less
        refine List.pairwise_cons.mpr ⟨?_, increasing⟩
        intro other member
        rcases List.mem_cons.mp member with rfl | member
        · exact less
        · exact less.trans (least other member)
      · rename_i notLess
        split
        · exact increasing
        · rename_i different
          have greater : next < column :=
            lt_of_le_of_ne (not_lt.mp notLess) (Ne.symm different)
          refine List.pairwise_cons.mpr ⟨?_, ih rest⟩
          intro other member
          rcases mem_insertColumn.mp member with rfl | member
          · exact greater
          · exact least other member

theorem pairwise_columnUnion (records : List Json) :
    (columnUnion records).Pairwise (· < ·) := by
  unfold columnUnion
  induction records.flatMap keysOf with
  | nil => exact .nil
  | cons column columns ih => exact pairwise_insertColumn ih

theorem mem_columnUnion {column : String} {records : List Json} :
    column ∈ columnUnion records ↔ ∃ record ∈ records, column ∈ keysOf record := by
  rw [columnUnion, ← List.mem_flatMap]
  induction records.flatMap keysOf with
  | nil => simp
  | cons next columns ih => rw [List.foldr_cons, mem_insertColumn, ih, List.mem_cons]

/-! ## Searching -/

theorem getElem?_of_searchBetween {columns : List String} {column : String}
    {low high place : Nat} (found : searchBetween columns column low high = some place) :
    columns[place]? = some column := by
  fun_induction searchBetween columns column low high with
  | case1 => simp at found
  | case2 low high _ middle here =>
      obtain rfl : middle = place := by simpa using found
      exact here
  | case3 _ _ _ _ _ _ _ _ ih => exact ih found
  | case4 _ _ _ _ _ _ _ _ ih => exact ih found
  | case5 => simp at found

theorem lt_of_getElem? {columns : List String} (increasing : columns.Pairwise (· < ·))
    {first second : Nat} {less greater : String} (inOrder : first < second)
    (atFirst : columns[first]? = some less) (atSecond : columns[second]? = some greater) :
    less < greater := by
  obtain ⟨_, rfl⟩ := List.getElem?_eq_some_iff.mp atFirst
  obtain ⟨_, rfl⟩ := List.getElem?_eq_some_iff.mp atSecond
  exact List.pairwise_iff_getElem.mp increasing _ _ _ _ inOrder

theorem place_unique {columns : List String} (increasing : columns.Pairwise (· < ·))
    {first second : Nat} {column : String} (atFirst : columns[first]? = some column)
    (atSecond : columns[second]? = some column) : first = second := by
  rcases Nat.lt_trichotomy first second with before | same | after
  · exact absurd (lt_of_getElem? increasing before atFirst atSecond) (lt_irrefl _)
  · exact same
  · exact absurd (lt_of_getElem? increasing after atSecond atFirst) (lt_irrefl _)

theorem searchBetween_of_getElem? {columns : List String}
    (increasing : columns.Pairwise (· < ·)) {column : String} {low high place : Nat}
    (inside : high ≤ columns.length) (notBefore : low ≤ place) (before : place < high)
    (here : columns[place]? = some column) :
    searchBetween columns column low high = some place := by
  fun_induction searchBetween columns column low high with
  | case1 low high below middle outside =>
      have : columns.length ≤ middle := List.getElem?_eq_none_iff.mp outside
      omega
  | case2 low high below middle there =>
      rw [place_unique increasing there here]
  | case3 low high below middle next there different less ih =>
      refine ih inside ?_ before
      -- the middle column is smaller, so the place lies behind it
      by_contra early
      rcases Nat.lt_or_eq_of_le (Nat.lt_succ_iff.mp (not_le.mp early)) with less' | rfl
      · exact absurd (lt_of_getElem? increasing less' here there) (not_lt_of_gt less)
      · exact different (Option.some.inj (there.symm.trans here))
  | case4 low high below middle next there different notLess ih =>
      refine ih (by omega) notBefore ?_
      by_contra late
      rcases Nat.lt_or_eq_of_le (not_lt.mp late) with less' | rfl
      · exact notLess (lt_of_getElem? increasing less' there here)
      · exact different (Option.some.inj (there.symm.trans here))
  | case5 low high notBelow => omega

theorem place?_eq_some_iff {columns : List String}
    (increasing : columns.Pairwise (· < ·)) {column : String} {place : Nat} :
    place? columns column = some place ↔ columns[place]? = some column := by
  constructor
  · exact getElem?_of_searchBetween
  · intro here
    obtain ⟨valid, -⟩ := List.getElem?_eq_some_iff.mp here
    exact searchBetween_of_getElem? increasing le_rfl (Nat.zero_le _) valid here

theorem length_writeEntry (columns : List String) (start : Nat)
    (cells : List (Option String)) (entry : String × Json) :
    (writeEntry columns start cells entry).length = cells.length := by
  unfold writeEntry
  split <;> simp

theorem length_foldl_writeEntry (columns : List String) (start : Nat)
    (cells : List (Option String)) (entries : List (String × Json)) :
    (entries.foldl (writeEntry columns start) cells).length = cells.length := by
  induction entries generalizing cells with
  | nil => rfl
  | cons entry entries ih => rw [List.foldl_cons, ih, length_writeEntry]

theorem writeEntry_inside {columns : List String} (increasing : columns.Pairwise (· < ·))
    (before row after : List (Option String)) (wide : row.length = columns.length)
    (entry : String × Json) :
    writeEntry columns before.length (before ++ row ++ after) entry =
      before ++ writeEntry columns 0 row entry ++ after := by
  unfold writeEntry
  cases found : place? columns entry.1 with
  | none => rfl
  | some place =>
      have here := (place?_eq_some_iff increasing).mp found
      obtain ⟨valid, -⟩ := List.getElem?_eq_some_iff.mp here
      have inRow : place < row.length := by omega
      simp only [Nat.zero_add, List.append_assoc]
      rw [List.set_append_right _ _ (Nat.le_add_right _ _), Nat.add_sub_cancel_left,
        List.set_append_left _ _ inRow]

theorem foldl_writeEntry_inside {columns : List String}
    (increasing : columns.Pairwise (· < ·)) (before row after : List (Option String))
    (wide : row.length = columns.length) (entries : List (String × Json)) :
    entries.foldl (writeEntry columns before.length) (before ++ row ++ after) =
      before ++ entries.foldl (writeEntry columns 0) row ++ after := by
  induction entries generalizing row with
  | nil => rfl
  | cons entry entries ih =>
      rw [List.foldl_cons, List.foldl_cons, writeEntry_inside increasing _ _ _ wide]
      exact ih _ (by rw [length_writeEntry, wide])

def rowOf (columns : List String) (record : Json) : List (Option String) :=
  writeRecord columns 0 (List.replicate columns.length none) record

theorem length_rowOf (columns : List String) (record : Json) :
    (rowOf columns record).length = columns.length := by
  rw [rowOf, writeRecord, length_foldl_writeEntry, List.length_replicate]

theorem getElem?_writeEntry {columns : List String} (increasing : columns.Pairwise (· < ·))
    {cells : List (Option String)} (wide : cells.length = columns.length)
    {place : Nat} {column : String} (here : columns[place]? = some column)
    (entry : String × Json) :
    (writeEntry columns 0 cells entry)[place]? =
      if entry.1 = column then some (some entry.2.literal) else cells[place]? := by
  obtain ⟨valid, -⟩ := List.getElem?_eq_some_iff.mp here
  unfold writeEntry
  split
  · rename_i other found
    have there := (place?_eq_some_iff increasing).mp found
    by_cases same : entry.1 = column
    · obtain rfl : other = place := place_unique increasing there (same ▸ here)
      simp [same, wide, valid]
    · have apart : other ≠ place := by
        rintro rfl
        exact same (Option.some.inj (there.symm.trans here))
      simp [same, List.getElem?_set_ne apart]
  · rename_i missing
    have different : entry.1 ≠ column := by
      rintro rfl
      rw [(place?_eq_some_iff increasing).mpr here] at missing
      cases missing
    simp [different]

theorem getElem?_foldl_writeEntry {columns : List String}
    (increasing : columns.Pairwise (· < ·)) {cells : List (Option String)}
    (wide : cells.length = columns.length) {place : Nat} {column : String}
    (here : columns[place]? = some column) (record : Record)
    (distinct : record.keys.Nodup) :
    (record.foldl (writeEntry columns 0) cells)[place]? =
      match record.get? column with
      | some value => some (some value.literal)
      | none => cells[place]? := by
  induction record generalizing cells with
  | nil => rfl
  | cons entry record ih =>
      obtain ⟨fresh, distinct⟩ :
          entry.1 ∉ Record.keys record ∧ (Record.keys record).Nodup :=
        List.nodup_cons.mp distinct
      have wide' : (writeEntry columns 0 cells entry).length = columns.length := by
        rw [length_writeEntry, wide]
      rw [List.foldl_cons, ih wide' distinct, getElem?_writeEntry increasing wide here,
        Record.get?_cons]
      by_cases same : entry.1 = column
      · rw [same] at fresh
        simp [same, (Record.get?_eq_none_iff record column).mpr fresh]
      · simp [same]

theorem rowOf_eq_map {columns : List String} (increasing : columns.Pairwise (· < ·))
    (record : Json) (distinct : (keysOf record).Nodup) :
    rowOf columns record =
      columns.map fun column => (record.get? column).map Json.literal := by
  apply List.ext_getElem?
  intro place
  cases here : columns[place]? with
  | none =>
      have outside : columns.length ≤ place := List.getElem?_eq_none_iff.mp here
      rw [List.getElem?_eq_none (by rwa [length_rowOf]), List.getElem?_map, here]
      rfl
  | some column =>
      obtain ⟨valid, -⟩ := List.getElem?_eq_some_iff.mp here
      rw [List.getElem?_map, here, rowOf, writeRecord,
        getElem?_foldl_writeEntry increasing (by simp) here _ distinct]
      cases record with
      | object entries =>
          change _ = some ((Record.get? entries column).map Json.literal)
          cases found : Record.get? entries column with
          | none => simp [Json.record?, found, valid]
          | some value => simp [Json.record?, found]
      | _ => simp [Json.record?, Json.get?, valid]

/-! ## The cells of all records -/

theorem writeRecords_eq {columns : List String} (increasing : columns.Pairwise (· < ·))
    (index : Nat) (before : List (Option String)) (records : List Json)
    (start : before.length = index * columns.length) :
    writeRecords columns index
        (before ++ List.replicate (records.length * columns.length) none) records =
      before ++ records.flatMap (rowOf columns) := by
  -- The rows written so far stay in front; of the blank cells one row is used up.
  induction records generalizing index before with
  | nil => simp [writeRecords]
  | cons record records ih =>
      have split : List.replicate ((record :: records).length * columns.length)
            (none : Option String) =
          List.replicate columns.length none ++
            List.replicate (records.length * columns.length) none := by
        rw [List.replicate_append_replicate, List.length_cons, Nat.succ_mul,
          Nat.add_comm]
      have next : (before ++ rowOf columns record).length =
          (index + 1) * columns.length := by
        rw [List.length_append, start, length_rowOf, Nat.succ_mul]
      rw [writeRecords, split, ← List.append_assoc, ← start, writeRecord,
        foldl_writeEntry_inside increasing _ _ _ (by simp)]
      rw [← writeRecord, ← rowOf, ih (index + 1) _ next, List.flatMap_cons,
        List.append_assoc]

theorem cells_ofRecords (records : List Json) :
    (ofRecords records).cells = records.flatMap (rowOf (columnUnion records)) := by
  have written := writeRecords_eq (pairwise_columnUnion records) 0 [] records (by simp)
  simpa [ofRecords] using written

theorem length_flatMap_rowOf (columns : List String) (records : List Json) :
    (records.flatMap (rowOf columns)).length = records.length * columns.length := by
  induction records with
  | nil => simp
  | cons record records ih =>
      rw [List.flatMap_cons, List.length_append, ih, length_rowOf, List.length_cons,
        Nat.succ_mul, Nat.add_comm]

theorem slice_flatMap_rowOf {columns : List String} {records : List Json} {index : Nat}
    {record : Json} (here : records[index]? = some record) :
    slice (records.flatMap (rowOf columns)) columns.length index =
      rowOf columns record := by
  induction records generalizing index with
  | nil => simp at here
  | cons first records ih =>
      have wide := length_rowOf columns first
      cases index with
      | zero =>
          obtain rfl : first = record := by simpa using here
          rw [slice, List.flatMap_cons, Nat.zero_mul, List.drop_zero, ← wide,
            List.take_left]
      | succ index =>
          have later : records[index]? = some record := by simpa using here
          rw [← ih later, slice, slice, List.flatMap_cons]
          have past : (index + 1) * columns.length =
              (rowOf columns first).length + index * columns.length := by
            rw [wide, Nat.succ_mul, Nat.add_comm]
          rw [past, List.drop_append, List.drop_eq_nil_of_le (by omega),
            List.nil_append, Nat.add_sub_cancel_left]

theorem row?_of_cells {grid : Grid} {records : List Json}
    (cells : grid.cells = records.flatMap (rowOf grid.columns)) {index : Nat}
    {record : Json} (here : records[index]? = some record) :
    grid.row? index = some (rowOf grid.columns record) := by
  obtain ⟨valid, -⟩ := List.getElem?_eq_some_iff.mp here
  have enough : (index + 1) * grid.width ≤ grid.cells.length := by
    rw [cells, length_flatMap_rowOf]
    exact Nat.mul_le_mul_right _ valid
  rw [row?, if_pos enough, cells]
  exact congrArg some (slice_flatMap_rowOf here)

theorem height_of_cells {grid : Grid} {records : List Json} (wide : grid.columns ≠ [])
    (cells : grid.cells = records.flatMap (rowOf grid.columns)) :
    grid.height = records.length := by
  have positive : 0 < grid.columns.length := List.length_pos_iff.mpr wide
  rw [height, if_neg (by simpa using wide), cells, length_flatMap_rowOf, width,
    Nat.mul_div_cancel _ positive]

theorem rows_of_cells {grid : Grid} {records : List Json} (wide : grid.columns ≠ [])
    (cells : grid.cells = records.flatMap (rowOf grid.columns)) :
    grid.rows = records.map (rowOf grid.columns) := by
  have positive : 0 < grid.columns.length := List.length_pos_iff.mpr wide
  have count : (grid.cells.length + grid.columns.length - 1) / grid.columns.length =
      records.length := by
    rw [cells, length_flatMap_rowOf, Nat.add_sub_assoc positive,
      Nat.mul_comm, Nat.mul_add_div positive, Nat.div_eq_of_lt (by omega), Nat.add_zero]
  rw [rows, width, max_eq_right positive, slices, count]
  apply List.ext_getElem?
  intro index
  cases here : records[index]? with
  | none =>
      have outside := List.getElem?_eq_none_iff.mp here
      simp [outside]
  | some record =>
      obtain ⟨valid, -⟩ := List.getElem?_eq_some_iff.mp here
      rw [List.getElem?_map, List.getElem?_range valid, List.getElem?_map, here, cells]
      exact congrArg some (slice_flatMap_rowOf here)

/-! ## Grids of JSON values -/

def recordsIn : Json → List Json
  | .null => []
  | .array items => items.takeWhile fun item => !item.isNull
  | record => [record]

theorem recordsOf_eq (records : Json) :
    recordsOf records = .ok (recordsIn records) ∨
      (∃ cause, recordsOf records = .error cause) ∧
        columnUnion (recordsIn records) = [] := by
  cases records with
  | null => exact .inr ⟨⟨_, rfl⟩, rfl⟩
  | array items =>
      cases items with
      | nil => exact .inr ⟨⟨_, rfl⟩, rfl⟩
      | cons item items => exact .inl rfl
  | object entries =>
      cases entries with
      | nil => exact .inr ⟨⟨_, rfl⟩, rfl⟩
      | cons entry entries => exact .inl rfl
  | _ => exact .inl rfl

theorem columnUnion_eq_nil_iff (records : List Json) :
    columnUnion records = [] ↔ ∀ record ∈ records, keysOf record = [] := by
  simp only [List.eq_nil_iff_forall_not_mem, mem_columnUnion]
  constructor
  · intro none record member column inKeys
    exact none column ⟨record, member, inKeys⟩
  · rintro none column ⟨record, member, inKeys⟩
    exact none record member column inKeys

theorem ofJson_eq (records : Json) :
    (columnUnion (recordsIn records) = [] ∧ ∃ cause, ofJson records = .error cause) ∨
      (columnUnion (recordsIn records) ≠ [] ∧
        ofJson records = .ok (ofRecords (recordsIn records))) := by
  by_cases unused : columnUnion (recordsIn records) = []
  · refine .inl ⟨unused, ?_⟩
    rcases recordsOf_eq records with given | ⟨⟨cause, refused⟩, -⟩
    · exact ⟨.noColumns, by simp [ofJson, given, unused, bind, Except.bind]⟩
    · exact ⟨cause, by simp [ofJson, refused, bind, Except.bind]⟩
  · refine .inr ⟨unused, ?_⟩
    rcases recordsOf_eq records with given | ⟨-, none⟩
    · simp [ofJson, given, unused, bind, Except.bind]
    · exact absurd none unused

theorem ofJson_refused_iff (records : Json) :
    (∃ cause, ofJson records = .error cause) ↔
      ∀ record ∈ recordsIn records, keysOf record = [] := by
  rw [← columnUnion_eq_nil_iff]
  rcases ofJson_eq records with ⟨unused, refused⟩ | ⟨used, accepted⟩
  · exact iff_of_true refused unused
  · refine iff_of_false ?_ used
    rintro ⟨cause, refused⟩
    rw [accepted] at refused
    cases refused

theorem columns_cells_of_ofJson {records : Json} {grid : Grid}
    (made : ofJson records = .ok grid) :
    grid.columns ≠ [] ∧ grid.columns = columnUnion (recordsIn records) ∧
      grid.cells = (recordsIn records).flatMap (rowOf grid.columns) := by
  rcases ofJson_eq records with ⟨-, cause, refused⟩ | ⟨used, accepted⟩
  · rw [refused] at made
    cases made
  · have same : grid = ofRecords (recordsIn records) :=
      Except.ok.inj (made.symm.trans accepted)
    have columns : grid.columns = columnUnion (recordsIn records) := by
      rw [same, ofRecords]
    refine ⟨columns ▸ used, columns, ?_⟩
    rw [columns, same, cells_ofRecords]

theorem cellText_map (value : Option Json) :
    Statement.cellText (value.map Json.literal) = literalOrNull value := by
  cases value <;> rfl

theorem text_insert_record (columns : List String) (record : Json) (target : Target) :
    (Statement.insert columns
        (columns.map fun column => (record.get? column).map Json.literal)).text target =
      "INSERT INTO " ++ target.table ++ " (" ++ ", ".intercalate columns ++
        ") VALUES (" ++
        ", ".intercalate (columns.map fun column => literalOrNull (record.get? column)) ++
        ")" := by
  have values : (columns.map fun column => (record.get? column).map Json.literal).map
      Statement.cellText = columns.map fun column => literalOrNull (record.get? column) := by
    rw [List.map_map]
    exact List.map_congr_left fun column _ => cellText_map (record.get? column)
  rw [Statement.text_insert, values, Statement.commaList, Statement.commaList]

theorem insertions_of_cells {grid : Grid} {records : List Json} (wide : grid.columns ≠ [])
    (cells : grid.cells = records.flatMap (rowOf grid.columns)) :
    grid.insertions =
      records.map fun record => .insert grid.columns (rowOf grid.columns record) := by
  rw [insertions, rows_of_cells wide cells, List.map_map]
  rfl

/-- Laying out records is refused exactly if they use no key.  Otherwise the columns
are the keys in use, in increasing order; there is one row for each record, in
their order, with the text of the value that the record has under each column, or
nothing; and each row makes one statement, which names all columns and gives them
their values.  The keys of a record are distinct, as in every JSON object. -/
theorem ofJson_aligns_records (records : Json) :
    ((∃ cause, ofJson records = .error cause) ↔
      ∀ record ∈ recordsIn records, keysOf record = []) ∧
    ∀ grid, ofJson records = .ok grid →
      grid.columns.Pairwise (· < ·) ∧
      (∀ column, column ∈ grid.columns ↔
        ∃ record ∈ recordsIn records, column ∈ keysOf record) ∧
      grid.height = (recordsIn records).length ∧
      grid.insertions.length = (recordsIn records).length ∧
      ∀ index record, (recordsIn records)[index]? = some record →
        ∃ row, grid.row? index = some row ∧ row.length = grid.columns.length ∧
          grid.insertions[index]? = some (.insert grid.columns row) ∧
          ((keysOf record).Nodup →
            row = grid.columns.map (fun column => (record.get? column).map Json.literal) ∧
            ∀ target, (Statement.insert grid.columns row).text target =
              "INSERT INTO " ++ target.table ++ " (" ++
                ", ".intercalate grid.columns ++ ") VALUES (" ++
                ", ".intercalate (grid.columns.map fun column =>
                  literalOrNull (record.get? column)) ++ ")") := by
  refine ⟨ofJson_refused_iff records, ?_⟩
  intro grid made
  obtain ⟨wide, columns, cells⟩ := columns_cells_of_ofJson made
  have increasing : grid.columns.Pairwise (· < ·) := by
    rw [columns]
    exact pairwise_columnUnion (recordsIn records)
  have statements := insertions_of_cells wide cells
  refine ⟨increasing, ?_, height_of_cells wide cells, ?_, ?_⟩
  · intro column
    rw [columns, mem_columnUnion]
  · rw [statements, List.length_map]
  · intro index record here
    refine ⟨rowOf grid.columns record, row?_of_cells cells here,
      length_rowOf _ _, ?_, ?_⟩
    · rw [statements, List.getElem?_map, here, Option.map_some]
    · intro distinct
      have row := rowOf_eq_map increasing record distinct
      refine ⟨row, fun target => ?_⟩
      rw [row, text_insert_record]

def mixedRecords : Json :=
  .array [.object [("b", .boolean true), ("a", .string "x")], .boolean false,
    .object [("c", .null)], .null, .object [("d", .null)]]

theorem mixedRecords_aligned :
    (¬ ∃ cause, ofJson mixedRecords = .error cause) ∧
      ∀ grid, ofJson mixedRecords = .ok grid →
        grid.insertions.length = 3 ∧ "d" ∉ grid.columns ∧
          grid.row? 0 = some [some "'x'", some "true", none] ∧
          (∀ target, ∃ row, grid.insertions[0]? = some (.insert grid.columns row) ∧
            (Statement.insert grid.columns row).text target =
              "INSERT INTO " ++ target.table ++ " (a, b, c) VALUES ('x', true, NULL)") ∧
          grid.row? 1 = some (grid.columns.map fun _ => none) := by
  obtain ⟨refused, aligned⟩ := ofJson_aligns_records mixedRecords
  constructor
  · rw [refused]
    decide
  · intro grid made
    obtain ⟨-, used, -, count, rows⟩ := aligned grid made
    obtain ⟨-, union, -⟩ := columns_cells_of_ofJson made
    have columns : grid.columns = ["a", "b", "c"] := by
      rw [union]
      decide
    obtain ⟨row, here, -, statement, cells⟩ :=
      rows 0 (.object [("b", .boolean true), ("a", .string "x")]) rfl
    obtain ⟨values, text⟩ := cells (by decide)
    refine ⟨count, ?_, ?_, fun target => ⟨row, statement, ?_⟩, ?_⟩
    · rw [used]
      decide
    · rw [here, values, columns]
      decide
    · rw [text target]
      simp only [columns, String.append_assoc]
      congr 2
    · obtain ⟨row, here, -, -, cells⟩ := rows 1 (.boolean false) rfl
      rw [here, (cells (by decide)).1]
      rfl

end JsonSql.Grid
