import JsonSql.Filter
import JsonSql.Operator

/-!
# From JSON to filters

Reading a filter never fails.  In an element of a group every key names a
field; below a field, keys are operator tokens.  A key without an operator
compares for equality, or for membership if it holds a list, and a key `and`
or `or` with a list starts a group.
-/

namespace JsonSql.Filter

def implied (field operator : String) (operand : Operand) : Filter :=
  .fields [.condition field operator operand]

def ofScalar (field : Option String) (key : String) (value : Json) : Filter :=
  match field with
  | some field =>
      if Operator.isKnown key then .condition field key (.scalar value)
      else implied key Operator.equality (.scalar value)
  | none => implied key Operator.equality (.scalar value)

def ofMembers (field : Option String) (key : String) (values : List Json) : Filter :=
  match field with
  | some field => .condition field key (.list values)
  | none => implied key "in" (.list values)

/-- The field whose operators are the keys of an object found under `key`. -/
def fieldBelow (field : Option String) (key : String) : Option String :=
  if key = Operator.equality then field else some key

mutual

/-- An element of a group; a scalar is no condition. -/
def ofItem? : Json → Option Filter
  | .object entries => some (.fields (ofEntries none entries))
  | .array items => some (.group .and (ofItems items))
  | _ => none

def ofItems : List Json → List Filter
  | [] => []
  | item :: items =>
      match ofItem? item with
      | some child => child :: ofItems items
      | none => ofItems items

def ofEntry (field : Option String) (key : String) : Json → Filter
  | .object entries => .fields (ofEntries (fieldBelow field key) entries)
  | .array items =>
      match Combinator.ofKey? key with
      | some combinator => .group combinator (ofItems items)
      | none => ofMembers field key items
  | value => ofScalar field key value

def ofEntries (field : Option String) : List (String × Json) → List Filter
  | [] => []
  | (key, value) :: entries => ofEntry field key value :: ofEntries field entries

end

def ofList (combinator : Combinator) (items : List Json) : Filter :=
  .group combinator (ofItems items)

def ofObject (field : Option String) (entries : Record) : Filter :=
  .fields (ofEntries field entries)

theorem ofItems_eq_filterMap (items : List Json) :
    ofItems items = items.filterMap ofItem? := by
  induction items with
  | nil => rfl
  | cons item items ih =>
      rw [ofItems, List.filterMap_cons, ih]
      cases ofItem? item <;> rfl

theorem ofEntries_eq_map (field : Option String) (entries : List (String × Json)) :
    ofEntries field entries =
      entries.map fun entry => ofEntry field entry.1 entry.2 := by
  induction entries with
  | nil => rfl
  | cons entry entries ih => rw [ofEntries, List.map_cons, ih]

@[simp] theorem ofItems_append (first second : List Json) :
    ofItems (first ++ second) = ofItems first ++ ofItems second := by
  simp [ofItems_eq_filterMap]

theorem ofEntries_append (field : Option String) (first second : Record) :
    ofEntries field (first ++ second) = ofEntries field first ++ ofEntries field second := by
  simp [ofEntries_eq_map]

end JsonSql.Filter
