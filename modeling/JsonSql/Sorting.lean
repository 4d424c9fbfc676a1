import JsonSql.Json
import JsonSql.Text.Blank
import JsonSql.Text.Case

/-!
# Sort columns

A sort order is a list of columns with directions.  It is written as one text
with commas, as a list of such texts, or as a list of pairs; a direction other
than `ASC` and `DESC` is passed through in upper case with single spaces.
-/

namespace JsonSql

inductive Direction where
  | ascending
  | descending
  | other (keyword : String)
  deriving DecidableEq, Repr, Inhabited

namespace Direction

def parse (text : String) : Direction :=
  let keyword := Text.upper (Text.squeeze text)
  if keyword = "" ∨ keyword = "ASC" then ascending
  else if keyword = "DESC" then descending
  else other keyword

def keyword : Direction → String
  | ascending => "ASC"
  | descending => "DESC"
  | other keyword => keyword

end Direction

structure SortColumn where
  column : String
  direction : Direction := .ascending
  deriving DecidableEq, Repr, Inhabited

namespace SortColumn

/-- A column and a direction with blanks between them; a blank token is none. -/
def ofToken? (token : List Char) : Option SortColumn :=
  match Text.splitAtBlank (Text.trim token) with
  | ([], _) => none
  | (column, direction) =>
      some ⟨String.ofList column, .parse (String.ofList direction)⟩

def ofText (text : String) : List SortColumn :=
  (Text.cut (· == ',') text.toList).filterMap ofToken?

def pairDirection : List Json → Direction
  | .string direction :: _ => .parse direction
  | _ => .ascending

/-- A pair starts with the column; whatever follows the direction is ignored. -/
def ofJson? : Json → Option SortColumn
  | .string token => ofToken? token.toList
  | .array (.string column :: rest) => some ⟨column, pairDirection rest⟩
  | _ => none

def list? : Json → Option (List SortColumn)
  | .string text => if text.toList.all Text.isBlank then none else some (ofText text)
  | .array [] => none
  | .array items => some (items.filterMap ofJson?)
  | _ => none

def text (sorted : SortColumn) : String :=
  "'" ++ sorted.column ++ "' " ++ sorted.direction.keyword

end SortColumn

def orderByText (columns : List SortColumn) : String :=
  if columns.isEmpty then ""
  else " ORDER BY " ++ ", ".intercalate (columns.map SortColumn.text)

end JsonSql
