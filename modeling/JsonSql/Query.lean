import JsonSql.Filter.Normal
import JsonSql.Filter.Where
import JsonSql.Sorting

/-!
# Queries

A query selects rows by a filter and says in which order and how many of them
are wanted.  In a query object the keys of `reserved` have meanings of their
own; all other keys are conditions and are merged with those under `where`.
-/

namespace JsonSql

structure Query where
  filter : Option Filter := none
  order : List SortColumn := []
  limit : Option Number := none
  offset : Option Number := none
  deriving Repr, Inhabited

namespace Query

def reserved : List String :=
  ["order", "orderBy", "sort", "limit", "offset", "skip", "where"]

def orderKeys : List String := ["order", "orderBy", "sort"]

def conditions (query : Record) : Record :=
  query.filter fun entry => !reserved.contains entry.1

def rawWhere? (query : Record) : Option String :=
  match query.get? "where" with
  | some (.string text) => if text = "" then none else some text
  | _ => none

/-- The conditions of the query, joined with a `where` that is not text: those of
an object take the places of equal keys, those of a list stand before the rest. -/
def items (query : Record) : List Json :=
  match query.get? "where" with
  | some (.object changes) => [.object ((conditions query).putAll changes)]
  | some (.array items) =>
      if (conditions query).isEmpty then items
      else items ++ [.object (conditions query)]
  | _ => [.object (conditions query)]

def filterOf (query : Record) : Filter :=
  match rawWhere? query with
  | some text => .raw text
  | none => Filter.ofList .and (items query)

def orderOf (query : Record) : List SortColumn :=
  (orderKeys.findSome? fun key => (query.get? key).bind SortColumn.list?).getD []

def numberAt? (query : Record) (key : String) : Option Number :=
  (query.get? key).bind Json.number?

def ofRecord (query : Record) : Query :=
  { filter := some (filterOf query)
    order := orderOf query
    limit := numberAt? query "limit"
    offset := (numberAt? query "skip").or (numberAt? query "offset") }

def ofJson (query : Json) : Query :=
  query.record?.elim { } ofRecord

/-- Tells the query that asks for nothing from all queries read from an object. -/
def isDefault (query : Query) : Bool :=
  query.filter.isNone && query.order.isEmpty && query.limit.isNone &&
    query.offset.isNone

/-- A text that starts with the keyword is the whole WHERE part. -/
def rawWhereText (text : String) : String :=
  let head := String.ofList ((Text.trimStart text.toList).take 5)
  if Text.caselessEq head "WHERE" then text else " WHERE " ++ text

def whereText : Option Filter → String
  | none => ""
  | some (.raw text) => rawWhereText text
  | some filter => if filter.whereText = "" then "" else " WHERE " ++ filter.whereText

def pageText (limit offset : Option Number) : String :=
  limit.elim "" (fun number => " LIMIT " ++ number.text) ++
    offset.elim "" (fun number => " OFFSET " ++ number.text)

def clause (query : Query) : String :=
  whereText query.filter ++ orderByText query.order ++
    pageText query.limit query.offset

end Query

def compileClause (query : Json) : String := (Query.ofJson query).clause

end JsonSql
