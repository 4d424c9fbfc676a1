import JsonSql.Literal

/-!
# Records in columns

Records to be inserted are laid out over one list of columns, the sorted union
of their keys.  The cells of all records form one list, row after row; a
missing cell marks a record that has no value for the column.
-/

namespace JsonSql

structure Grid where
  columns : List String
  cells : List (Option String)
  deriving DecidableEq, Repr, Inhabited

inductive EmptyInput where
  | noRecords
  | noEntries
  | noColumns
  deriving DecidableEq, Repr

def EmptyInput.reason : EmptyInput → String
  | noRecords => "no records given"
  | noEntries => "record has no columns"
  | noColumns => "records have no columns"

namespace Grid

def width (grid : Grid) : Nat := grid.columns.length

def height (grid : Grid) : Nat :=
  if grid.columns.isEmpty then 0 else grid.cells.length / grid.width

def isEmpty (grid : Grid) : Bool := grid.height == 0

def slice (cells : List α) (width index : Nat) : List α :=
  (cells.drop (index * width)).take width

def row? (grid : Grid) (index : Nat) : Option (List (Option String)) :=
  if (index + 1) * grid.width ≤ grid.cells.length then
    some (slice grid.cells grid.width index)
  else
    none

/-- The slices of `width` cells; only the last one may be shorter. -/
def slices (width : Nat) (cells : List α) : List (List α) :=
  (List.range ((cells.length + width - 1) / width)).map (slice cells width)

/-- All cells in rows; without columns every cell is a row of its own. -/
def rows (grid : Grid) : List (List (Option String)) :=
  slices (max 1 grid.width) grid.cells

/-- The records of a value: those of a list end before its first null. -/
def recordsOf : Json → Except EmptyInput (List Json)
  | .null => .error .noRecords
  | .array [] => .error .noRecords
  | .array items => .ok (items.takeWhile fun item => !item.isNull)
  | .object [] => .error .noEntries
  | record => .ok [record]

def insertColumn (column : String) : List String → List String
  | [] => [column]
  | next :: columns =>
      if column < next then column :: next :: columns
      else if column = next then next :: columns
      else next :: insertColumn column columns

def keysOf (record : Json) : List String :=
  (record.record?.getD []).keys

def columnUnion (records : List Json) : List String :=
  (records.flatMap keysOf).foldr insertColumn []

/-- Looks for a column from the place `low` on and before `high`, halving the
range at each step; the columns increase. -/
def searchBetween (columns : List String) (column : String) (low high : Nat) :
    Option Nat :=
  if low < high then
    let middle := low + (high - low) / 2
    match columns[middle]? with
    | none => none
    | some found =>
        if found = column then some middle
        else if found < column then searchBetween columns column (middle + 1) high
        else searchBetween columns column low middle
  else
    none
termination_by high - low

def place? (columns : List String) (column : String) : Option Nat :=
  searchBetween columns column 0 columns.length

def writeEntry (columns : List String) (start : Nat) (cells : List (Option String))
    (entry : String × Json) : List (Option String) :=
  match place? columns entry.1 with
  | some place => cells.set (start + place) (some entry.2.literal)
  | none => cells

def writeRecord (columns : List String) (start : Nat) (cells : List (Option String))
    (record : Json) : List (Option String) :=
  (record.record?.getD []).foldl (writeEntry columns start) cells

def writeRecords (columns : List String) (index : Nat) (cells : List (Option String)) :
    List Json → List (Option String)
  | [] => cells
  | record :: records =>
      writeRecords columns (index + 1)
        (writeRecord columns (index * columns.length) cells record) records

def ofRecords (records : List Json) : Grid :=
  let columns := columnUnion records
  let blank := List.replicate (records.length * columns.length) none
  ⟨columns, writeRecords columns 0 blank records⟩

def ofJson (records : Json) : Except EmptyInput Grid := do
  let records ← recordsOf records
  if columnUnion records = [] then .error .noColumns
  else .ok (ofRecords records)

end Grid

end JsonSql
