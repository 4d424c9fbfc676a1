import Mathlib.Data.List.Sort
import Mathlib.Data.List.TakeWhile
import JsonSql.Proofs.Records
import JsonSql.Proofs.Refusals

/-!
# Records one by one

A list of records is created by the statements that create each record alone, as
soon as a record says of every column in use that it has none: a cell without a
value and a value that is null have the same text.  A list of records is updated
by the statements that update each of them under its own identifier.
-/

namespace JsonSql

theorem map_eq_of_mapM_eq_ok {step : α → Except ε β} {items : List α} {results : List β}
    (accepted : items.mapM step = .ok results) : items.map step = results.map .ok := by
  induction items generalizing results with
  | nil =>
      obtain rfl : [] = results := Except.ok.inj accepted
      rfl
  | cons item items ih =>
      rw [List.mapM_cons] at accepted
      cases first : step item with
      | error cause =>
          rw [first] at accepted
          cases accepted
      | ok result =>
          rw [first] at accepted
          cases rest : items.mapM step with
          | error cause =>
              rw [rest] at accepted
              cases accepted
          | ok others =>
              rw [rest] at accepted
              obtain rfl : result :: others = results := Except.ok.inj accepted
              rw [List.map_cons, List.map_cons, first, ih rest]

namespace Grid

/-- The record with a null under each of the columns that it lacks; a value that is
no object counts as an empty one. -/
def completed (columns : List String) (record : Json) : Json :=
  .object (record.record?.getD [] ++
    (columns.filter fun column => !(keysOf record).contains column).map (·, .null))

variable {columns : List String} {record : Json}

theorem keysOf_completed (columns : List String) (record : Json) :
    keysOf (completed columns record) =
      keysOf record ++ columns.filter fun column => !(keysOf record).contains column := by
  change Record.keys (_ ++ _) = _
  rw [Record.keys_append, keysOf]
  simp [Record.keys, List.map_map, Function.comp_def]

theorem mem_keysOf_completed {column : String} :
    column ∈ keysOf (completed columns record) ↔
      column ∈ keysOf record ∨ column ∈ columns := by
  rw [keysOf_completed, List.mem_append, List.mem_filter]
  by_cases known : column ∈ keysOf record <;> simp [known]

theorem nodup_keysOf_completed (distinct : (keysOf record).Nodup)
    (distinctColumns : columns.Nodup) : (keysOf (completed columns record)).Nodup := by
  rw [keysOf_completed, List.nodup_append]
  refine ⟨distinct, distinctColumns.filter _, ?_⟩
  intro key here other there same
  have absent := (List.mem_filter.mp there).2
  rw [← same] at absent
  simp [here] at absent

theorem get?_completed {column : String} (listed : column ∈ columns) :
    (completed columns record).get? column = some ((record.get? column).getD .null) := by
  have fromRecord : record.get? column = Record.get? (record.record?.getD []) column := by
    cases record <;> rfl
  change Record.get? (_ ++ _) column = _
  rw [Record.get?_append, ← fromRecord]
  cases found : record.get? column with
  | some value => rfl
  | none =>
      have absent : column ∉ keysOf record := by
        rw [fromRecord] at found
        exact (Record.get?_eq_none_iff _ column).mp found
      have missing :
          column ∈ columns.filter fun column => !(keysOf record).contains column :=
        List.mem_filter.mpr ⟨listed, by simpa using absent⟩
      rw [Record.get?_map_pair, if_pos missing]
      rfl

theorem recordsIn_of_noNull {records : List Json}
    (noNull : ∀ record ∈ records, record.isNull = false) :
    recordsIn (.array records) = records :=
  List.takeWhile_eq_self_iff.mpr fun record member => by simp [noNull record member]

theorem columns_of_ofJson_array {records : List Json} {grid : Grid}
    (made : Grid.ofJson (.array records) = .ok grid)
    (noNull : ∀ record ∈ records, record.isNull = false) :
    recordsIn (.array records) = records ∧ grid.columns ≠ [] ∧
      grid.columns.Pairwise (· < ·) ∧
      ∀ column, column ∈ grid.columns ↔ ∃ record ∈ records, column ∈ keysOf record := by
  obtain ⟨wide, columns, -⟩ := columns_cells_of_ofJson made
  have all := recordsIn_of_noNull noNull
  rw [all] at columns
  refine ⟨all, wide, ?_, ?_⟩
  · rw [columns]
    exact pairwise_columnUnion _
  · intro column
    rw [columns, mem_columnUnion]

end Grid

namespace Request

def texts (target : Target) (request : Request) : Except Error (List String) :=
  (request.plan target.idAttribute).map (Plan.texts target)

def creationText (target : Target) (columns : List String) (record : Json) : String :=
  (Statement.insert columns
    (columns.map fun column => (record.get? column).map Json.literal)).text target

variable {target : Target}

theorem texts_create {records : Json} {grid : Grid} (made : Grid.ofJson records = .ok grid)
    (distinct : ∀ record ∈ Grid.recordsIn records, (Grid.keysOf record).Nodup) :
    texts target (create records) =
      .ok ((Grid.recordsIn records).map (creationText target grid.columns)) := by
  obtain ⟨wide, columns, cells⟩ := Grid.columns_cells_of_ofJson made
  have increasing : grid.columns.Pairwise (· < ·) := by
    rw [columns]
    exact Grid.pairwise_columnUnion _
  have statements : grid.insertions.map (Statement.text target) =
      (Grid.recordsIn records).map (creationText target grid.columns) := by
    rw [Grid.insertions_of_cells wide cells, List.map_map]
    apply List.map_congr_left
    intro record member
    have row := Grid.rowOf_eq_map increasing record (distinct record member)
    simp only [Function.comp_apply, creationText, row]
  rw [texts, plan_create, made, ← statements]
  rfl

theorem texts_create_record {columns : List String} (wide : columns ≠ [])
    (increasing : columns.Pairwise (· < ·)) {record : Json}
    (distinct : (Grid.keysOf record).Nodup)
    (same : ∀ column, column ∈ Grid.keysOf record ↔ column ∈ columns) :
    texts target (create record) = .ok [creationText target columns record] := by
  have single : Grid.recordsIn record = [record] := by
    cases record with
    | object entries => rfl
    | _ =>
        obtain ⟨column, rest, shape⟩ := List.exists_cons_of_ne_nil wide
        have listed := (same column).mpr (by simp [shape])
        simp [Grid.keysOf, Json.record?, Record.keys] at listed
  have union : Grid.columnUnion [record] = columns := by
    refine List.Pairwise.eq_of_mem_iff (Grid.pairwise_columnUnion _) increasing ?_
    intro column
    rw [Grid.mem_columnUnion, ← same]
    simp
  rcases Grid.ofJson_eq record with ⟨unused, -⟩ | ⟨-, made⟩
  · rw [single, union] at unused
    exact absurd unused wide
  · have alone : ∀ one ∈ Grid.recordsIn record, (Grid.keysOf one).Nodup := by
      simpa [single] using distinct
    have columnsHere : (Grid.ofRecords (Grid.recordsIn record)).columns = columns := by
      rw [single, ← union, Grid.ofRecords]
    rw [texts_create made alone, columnsHere, single, List.map_singleton]

theorem creationText_completed (columns : List String) (record : Json) :
    creationText target columns (Grid.completed columns record) =
      creationText target columns record := by
  have sameValues :
      (columns.map fun column =>
        literalOrNull ((Grid.completed columns record).get? column)) =
      columns.map fun column => literalOrNull (record.get? column) := by
    apply List.map_congr_left
    intro column listed
    rw [Grid.get?_completed listed]
    cases record.get? column <;> rfl
  rw [creationText, creationText, Grid.text_insert_record, Grid.text_insert_record,
    sameValues]

theorem texts_create_completed {columns : List String} (wide : columns ≠ [])
    (increasing : columns.Pairwise (· < ·)) {record : Json}
    (distinct : (Grid.keysOf record).Nodup)
    (known : ∀ column ∈ Grid.keysOf record, column ∈ columns) :
    texts target (create (Grid.completed columns record)) =
      .ok [creationText target columns record] := by
  have distinctColumns : columns.Nodup := increasing.imp fun less => ne_of_lt less
  have same : ∀ column, column ∈ Grid.keysOf (Grid.completed columns record) ↔
      column ∈ columns := by
    intro column
    rw [Grid.mem_keysOf_completed]
    exact ⟨fun either => either.elim (known column) id, Or.inr⟩
  rw [texts_create_record wide increasing
    (Grid.nodup_keysOf_completed distinct distinctColumns) same, creationText_completed]

theorem texts_update (idAttribute table : String) (record : Json) :
    texts ⟨table, idAttribute⟩
        (update ((record.get? idAttribute).getD .null) record) =
      (updateOf idAttribute record).map fun statement =>
        [statement.text ⟨table, idAttribute⟩] := by
  rw [texts, plan_update, updateOf]
  cases assignmentsOf record <;> rfl

theorem texts_updateMany (target : Target) {records : List Json}
    (filled : ∀ record ∈ records, Grid.keysOf record ≠ []) :
    ∃ statements : List String, texts target (updateMany records) = .ok statements ∧
      (records.map fun record => texts target
          (update ((record.get? target.idAttribute).getD .null) record)) =
        statements.map fun statement => .ok [statement] := by
  rcases mapM_updateOf_cases target.idAttribute records with
    ⟨⟨record, member, blank⟩, -⟩ | ⟨-, statements, planned, -⟩
  · exact absurd blank (filled record member)
  · have given : records.map (updateOf target.idAttribute) = statements.map .ok :=
      map_eq_of_mapM_eq_ok planned
    have each : (records.map fun record => texts target
          (update ((record.get? target.idAttribute).getD .null) record)) =
        (records.map (updateOf target.idAttribute)).map
          (Except.map fun statement => [statement.text target]) := by
      rw [List.map_map]
      exact List.map_congr_left fun record _ => texts_update _ _ record
    refine ⟨statements.map (Statement.text target), ?_, ?_⟩
    · rw [texts, plan_updateMany, planned]
      rfl
    · rw [each, given, List.map_map, List.map_map]
      rfl

/-! ## Lists and single records -/

/-- Creating a list of records sends one statement for each of them, the only one of
creating that record alone with a null under every column it lacks, and if the
records have the same keys, of creating it as it is.  Updating a list of records
sends the statements of updating each of them under its own identifier.  The keys of
a record are distinct. -/
theorem lists_agree_with_single_records (target : Target) (records : List Json) :
    (∀ grid, Grid.ofJson (.array records) = .ok grid →
      (∀ record ∈ records, record.isNull = false) →
      (∀ record ∈ records, (Grid.keysOf record).Nodup) →
      ∃ statements : List String,
        texts target (create (.array records)) = .ok statements ∧
        (records.map fun record =>
            texts target (create (Grid.completed grid.columns record))) =
          statements.map (fun statement => .ok [statement]) ∧
        ((∀ first ∈ records, ∀ second ∈ records,
            ∀ column, column ∈ Grid.keysOf first ↔ column ∈ Grid.keysOf second) →
          (records.map fun record => texts target (create record)) =
            statements.map fun statement => .ok [statement])) ∧
    ((∀ record ∈ records, Grid.keysOf record ≠ []) →
      ∃ statements : List String,
        texts target (updateMany records) = .ok statements ∧
        (records.map fun record => texts target
            (update ((record.get? target.idAttribute).getD .null) record)) =
          statements.map fun statement => .ok [statement]) := by
  constructor
  · intro grid made noNull distinct
    obtain ⟨all, wide, increasing, union⟩ := Grid.columns_of_ofJson_array made noNull
    refine ⟨records.map (creationText target grid.columns), ?_, ?_, ?_⟩
    · rw [texts_create made (by rwa [all]), all]
    · rw [List.map_map]
      apply List.map_congr_left
      intro record member
      exact texts_create_completed wide increasing (distinct record member)
        fun column inKeys => (union column).mpr ⟨record, member, inKeys⟩
    · intro sameKeys
      rw [List.map_map]
      apply List.map_congr_left
      intro record member
      refine texts_create_record wide increasing (distinct record member) fun column => ?_
      constructor
      · intro inKeys
        exact (union column).mpr ⟨record, member, inKeys⟩
      · intro listed
        obtain ⟨other, otherMember, inKeys⟩ := (union column).mp listed
        exact (sameKeys record member other otherMember column).mpr inKeys
  · intro filled
    exact texts_updateMany target filled

def sparseRecords : List Json :=
  [.object [("b", .boolean true), ("a", .string "x")], .boolean false,
    .object [("c", .null)]]

theorem sparseRecords_created_one_by_one :
    (∃ grid, Grid.ofJson (.array sparseRecords) = .ok grid ∧
      (∀ record ∈ sparseRecords, record.isNull = false) ∧
      (∀ record ∈ sparseRecords, (Grid.keysOf record).Nodup) ∧
      ∃ statements : List String, statements.length = 3 ∧
        texts ⟨"T", "id"⟩ (create (.array sparseRecords)) = .ok statements ∧
        (sparseRecords.map fun record =>
            texts ⟨"T", "id"⟩ (create (Grid.completed grid.columns record))) =
          statements.map fun statement => .ok [statement]) ∧
    (∀ record ∈ [Json.object [("a", .null)], .object [("id", .string "x")]],
      Grid.keysOf record ≠ []) ∧
    ∃ statements : List String,
      texts ⟨"T", "id"⟩
        (updateMany [.object [("a", .null)], .object [("id", .string "x")]]) =
          .ok statements := by
  have noNull : ∀ record ∈ sparseRecords, record.isNull = false := by decide
  have distinct : ∀ record ∈ sparseRecords, (Grid.keysOf record).Nodup := by decide
  have filled : ∀ record ∈ [Json.object [("a", .null)], .object [("id", .string "x")]],
      Grid.keysOf record ≠ [] := by decide
  refine ⟨?_, filled, ?_⟩
  · rcases Grid.ofJson_eq (.array sparseRecords) with ⟨unused, -⟩ | ⟨-, made⟩
    · exact absurd unused (by decide)
    · obtain ⟨statements, sent, single, -⟩ :=
        (lists_agree_with_single_records ⟨"T", "id"⟩ sparseRecords).1 _ made noNull distinct
      have count := congrArg List.length single
      rw [List.length_map, List.length_map] at count
      exact ⟨_, made, noNull, distinct, statements, count.symm, sent, single⟩
  · obtain ⟨statements, sent, -⟩ :=
      (lists_agree_with_single_records ⟨"T", "id"⟩ _).2 filled
    exact ⟨statements, sent⟩

end Request

end JsonSql
