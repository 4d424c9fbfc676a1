import JsonSql.Number

/-!
# JSON values

Values with exact numbers and with the entries of an object in the order in
which they were written.  An object is read by key, and `put` writes one key
while every other entry keeps its place.
-/

namespace JsonSql

inductive Json where
  | null
  | boolean (value : Bool)
  | number (value : Number)
  | string (text : String)
  | array (items : List Json)
  | object (entries : List (String × Json))
  deriving Repr, Inhabited

/-- The entries of an object; also a row of a table and a record to be stored. -/
abbrev Record := List (String × Json)

namespace Record

def keys (record : Record) : List String := record.map (·.1)

def get? (record : Record) (key : String) : Option Json := record.lookup key

def put (key : String) (value : Json) : Record → Record
  | [] => [(key, value)]
  | entry :: record =>
      if entry.1 = key then (key, value) :: record
      else entry :: put key value record

def putAll (record changes : Record) : Record :=
  changes.foldl (fun merged change => put change.1 change.2 merged) record

@[simp] theorem get?_nil (key : String) : get? [] key = none := rfl

theorem get?_cons (entry : String × Json) (record : Record) (key : String) :
    get? (entry :: record) key =
      if entry.1 = key then some entry.2 else get? record key := by
  rw [get?, List.lookup_cons]
  by_cases same : entry.1 = key
  · simp [same]
  · have different : (key == entry.1) = false := by
      simpa using fun h => same h.symm
    simp [get?, same, different]

theorem get?_eq_none_iff (record : Record) (key : String) :
    get? record key = none ↔ key ∉ record.keys := by
  induction record with
  | nil => simp [keys]
  | cons entry record ih =>
      rw [get?_cons, keys, List.map_cons, List.mem_cons, not_or, ← keys]
      by_cases same : entry.1 = key
      · simp [same]
      · simp [same, ih, Ne.symm same]

end Record

namespace Json

def isNull : Json → Bool
  | null => true
  | _ => false

def record? : Json → Option Record
  | object entries => some entries
  | _ => none

def items? : Json → Option (List Json)
  | array items => some items
  | _ => none

def string? : Json → Option String
  | string text => some text
  | _ => none

def number? : Json → Option Number
  | number value => some value
  | _ => none

def get? (value : Json) (key : String) : Option Json :=
  value.record?.bind fun record => record.get? key

@[elab_as_elim]
theorem inductionOn {motive : Json → Prop} (value : Json)
    (null : motive .null)
    (boolean : ∀ value, motive (.boolean value))
    (number : ∀ value, motive (.number value))
    (string : ∀ text, motive (.string text))
    (array : ∀ items, (∀ item ∈ items, motive item) → motive (.array items))
    (object : ∀ entries, (∀ entry ∈ entries, motive entry.2) →
      motive (.object entries)) : motive value := by
  refine @Json.rec motive (fun items => ∀ item ∈ items, motive item)
    (fun entries => ∀ entry ∈ entries, motive entry.2) (fun entry => motive entry.2)
    null boolean number string array object ?_ ?_ ?_ ?_ (fun _ _ inner => inner) value
  · simp
  · exact fun item items first rest => List.forall_mem_cons.mpr ⟨first, rest⟩
  · simp
  · exact fun entry entries first rest => List.forall_mem_cons.mpr ⟨first, rest⟩

end Json

end JsonSql
