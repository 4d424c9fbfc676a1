import JsonSql.Grid
import JsonSql.Identifier

/-!
# Statements

The statements that are sent for one table.  Clauses and assignments come in as
finished texts; the attribute that identifies a row is quoted, the table name
is used as it is given.
-/

namespace JsonSql

structure Target where
  table : String
  idAttribute : String
  deriving DecidableEq, Repr, Inhabited

inductive Statement where
  | selectById (id : Json)
  | select (clause : String)
  | count (clause : String)
  | sum (field clause : String)
  | deleteById (id : Json)
  | delete (clause : String)
  | updateById (assignments : List String) (id : Json)
  | update (assignments : List String) (clause : String)
  | insert (columns : List String) (row : List (Option String))
  deriving Repr, Inhabited

namespace Target

def idCondition (target : Target) (id : Json) : String :=
  Identifier.quote target.idAttribute ++ " = " ++ id.literal

end Target

namespace Statement

def commaList (texts : List String) : String := ", ".intercalate texts

def cellText (cell : Option String) : String := cell.getD "NULL"

def text (target : Target) : Statement → String
  | selectById id =>
      "SELECT " ++ target.table ++ ".* FROM " ++ target.table ++ " WHERE " ++
        target.table ++ "." ++ target.idCondition id
  | select clause =>
      "SELECT " ++ target.table ++ ".* FROM " ++ target.table ++ clause
  | count clause => "SELECT COUNT(*) AS COUNT FROM " ++ target.table ++ clause
  | sum field clause =>
      "SELECT SUM(" ++ field ++ ") AS SUM FROM " ++ target.table ++ clause
  | deleteById id =>
      "DELETE FROM " ++ target.table ++ " WHERE " ++ target.idCondition id
  | delete clause => "DELETE FROM " ++ target.table ++ clause
  | updateById assignments id =>
      "UPDATE " ++ target.table ++ " SET " ++ commaList assignments ++ " WHERE " ++
        target.idCondition id
  | update assignments clause =>
      "UPDATE " ++ target.table ++ " SET " ++ commaList assignments ++ clause
  | insert columns row =>
      "INSERT INTO " ++ target.table ++ " (" ++ commaList columns ++ ") VALUES (" ++
        commaList (row.map cellText) ++ ")"

theorem text_insert (target : Target) (columns : List String)
    (row : List (Option String)) :
    (insert columns row).text target =
      "INSERT INTO " ++ target.table ++ " (" ++ commaList columns ++ ") VALUES (" ++
        commaList (row.map cellText) ++ ")" := rfl

end Statement

def assignments? : Json → Option (List String)
  | .object (entry :: entries) =>
      some ((entry :: entries).map fun entry => entry.1 ++ " = " ++ entry.2.literal)
  | _ => none

def Grid.insertions (grid : Grid) : List Statement :=
  grid.rows.map (Statement.insert grid.columns)

end JsonSql
