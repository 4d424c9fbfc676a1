import JsonSql.Json
import JsonSql.Text.Case

/-!
# Filters

A filter is a tree.  Its leaves compare one field with one operand; `fields`
holds the conditions of one JSON object, all of which must hold, and `group`
joins its children by a combinator.  A `raw` filter is SQL text taken as it is.
-/

namespace JsonSql

inductive Combinator where
  | and
  | or
  deriving DecidableEq, Repr

namespace Combinator

def ofKey? (key : String) : Option Combinator :=
  if Text.caselessEq "and" key then some .and
  else if Text.caselessEq "or" key then some .or
  else none

def keyword : Combinator → String
  | and => "AND"
  | or => "OR"

end Combinator

inductive Operand where
  | scalar (value : Json)
  | list (values : List Json)
  deriving Repr, Inhabited

inductive Filter where
  | condition (field operator : String) (operand : Operand)
  | fields (entries : List Filter)
  | group (combinator : Combinator) (children : List Filter)
  | raw (text : String)
  deriving Repr, Inhabited

end JsonSql
