import JsonSql.Identifier
import JsonSql.Layout

/-!
# Mappers

A mapper tells which table holds the records of an entity and which column
identifies a row.  Only that column has a default.
-/

namespace JsonSql

structure Mapper where
  name : String
  table : String
  idAttribute : String := "id"
  deriving DecidableEq, Repr, Inhabited

namespace Mapper

def toJson (mapper : Mapper) : Json :=
  .object
    [ ("name", .string mapper.name),
      ("table", .string mapper.table),
      ("idAttribute", .string mapper.idAttribute) ]

structure Draft where
  name : Option String := none
  table : Option String := none
  idAttribute : Option String := none

def finish (absent : String → ReadError) (draft : Draft) : Except ReadError Mapper :=
  match draft.name, draft.table with
  | none, _ => .error (absent "name")
  | _, none => .error (absent "table")
  | some name, some table => .ok ⟨name, table, draft.idAttribute.getD "id"⟩

def layout : Layout Draft Mapper where
  name := "Mapper"
  slots :=
    [ .of "name" [] (·.name)
        (fun name draft => { draft with name := some name }) readString,
      .of "table" [] (·.table)
        (fun table draft => { draft with table := some table }) readString,
      .of "idAttribute" [] (·.idAttribute)
        (fun column draft => { draft with idAttribute := some column }) readString ]
  start := { }
  finish := finish

def ofJson (value : Json) : Except ReadError Mapper := layout.read value

def quotedTable (mapper : Mapper) : String := Identifier.quote mapper.table

end Mapper

end JsonSql
