import JsonSql.Json.Printer

/-!
# SQL literals

The literal that stands for a JSON value in a statement.  A text goes between
single quotes as it is, an array or object as its JSON text between single
quotes, and a missing value reads as `NULL`.
-/

namespace JsonSql

def singleQuoted (text : String) : String := "'" ++ text ++ "'"

def Json.literal : Json → String
  | .null => "NULL"
  | .string text => singleQuoted text
  | .array items => singleQuoted (Json.array items).text
  | .object entries => singleQuoted (Json.object entries).text
  | value => value.text

def literalOrNull (value : Option Json) : String :=
  value.elim "NULL" Json.literal

@[simp] theorem literalOrNull_some (value : Json) :
    literalOrNull (some value) = value.literal := rfl

@[simp] theorem literalOrNull_none : literalOrNull none = "NULL" := rfl

end JsonSql
