import JsonSql.Filter.Normal

/-!
# Explicit filters

The explicit form of a filter object names the operator of every comparison.
Reading it gives the filter that the object itself gives, unless an object at a
field position has an equality that holds no object: there the key is the name
of a field, and writing the operator out would take this name away.
-/

namespace JsonSql.Filter

def explicitScalar (field : Option String) (key : String) (value : Json) : Json :=
  match field with
  | some _ =>
      if Operator.isKnown key then value else .object [(Operator.equality, value)]
  | none => .object [(Operator.equality, value)]

def explicitMembers (field : Option String) (values : List Json) : Json :=
  match field with
  | some _ => .array values
  | none => .object [("in", .array values)]

mutual

def explicitItem : Json → Json
  | .object entries => .object (explicitEntries none entries)
  | .array items => .array (explicitItems items)
  | value => value

def explicitItems : List Json → List Json
  | [] => []
  | item :: items => explicitItem item :: explicitItems items

def explicitEntry (field : Option String) (key : String) : Json → Json
  | .object entries => .object (explicitEntries (fieldBelow field key) entries)
  | .array items =>
      match Combinator.ofKey? key with
      | some _ => .array (explicitItems items)
      | none => explicitMembers field items
  | value => explicitScalar field key value

/-- The explicit form of an object at a position: a field position without a
field, an operator position below the field that is given. -/
def explicitEntries (field : Option String) :
    List (String × Json) → List (String × Json)
  | [] => []
  | (key, value) :: entries =>
      (key, explicitEntry field key value) :: explicitEntries field entries

end

theorem explicitEntries_eq_map (field : Option String) (entries : Record) :
    explicitEntries field entries =
      entries.map fun entry => (entry.1, explicitEntry field entry.1 entry.2) := by
  induction entries with
  | nil => rfl
  | cons entry entries ih => rw [explicitEntries, List.map_cons, ih]

/-- Objects among the elements of a group list, and of lists that are elements. -/
inductive InGroup : List Json → Record → Prop
  | element {items : List Json} {object : Record} :
      .object object ∈ items → InGroup items object
  | nested {items inner : List Json} {object : Record} :
      .array inner ∈ items → InGroup inner object → InGroup items object

/-- The objects reached from one at a position, and the position of each. -/
inductive Reaches : Option String → Record → Option String → Record → Prop
  | refl (field : Option String) (entries : Record) :
      Reaches field entries field entries
  | inner {field position : Option String} {entries inner object : Record}
      {key : String} : (key, .object inner) ∈ entries →
      Reaches (fieldBelow field key) inner position object →
      Reaches field entries position object
  | group {field position : Option String} {entries element object : Record}
      {key : String} {items : List Json} : (key, .array items) ∈ entries →
      (Combinator.ofKey? key).isSome = true → InGroup items element →
      Reaches none element position object → Reaches field entries position object

def isBareEquality (entry : String × Json) : Bool :=
  entry.1 == Operator.equality && entry.2.record?.isNone

/-- No object at a field position has a bare equality. -/
def IsRegular (field : Option String) (entries : Record) : Prop :=
  ∀ object, Reaches field entries none object →
    ∀ entry ∈ object, isBareEquality entry = false

def IsRegularItem : Json → Prop
  | .object entries => IsRegular none entries
  | .array items => ∀ object, InGroup items object → IsRegular none object
  | _ => True

def IsRegularUnder (field : Option String) (key : String) : Json → Prop
  | .object entries => IsRegular (fieldBelow field key) entries
  | .array items => (Combinator.ofKey? key).isSome = true →
      ∀ object, InGroup items object → IsRegular none object
  | _ => True

theorem isRegularItem_array_iff (items : List Json) :
    IsRegularItem (.array items) ↔ ∀ item ∈ items, IsRegularItem item := by
  constructor
  · intro regular item member
    cases item with
    | object entries => exact regular entries (.element member)
    | array inner => exact fun object inside => regular object (.nested member inside)
    | _ => trivial
  · rintro regular object (member | ⟨member, inside⟩)
    · exact regular _ member
    · exact regular _ member object inside

theorem isRegular_iff (field : Option String) (entries : Record) :
    IsRegular field entries ↔
      ∀ entry ∈ entries, (field = none → isBareEquality entry = false) ∧
        IsRegularUnder field entry.1 entry.2 := by
  constructor
  · intro regular entry member
    refine ⟨?_, ?_⟩
    · rintro rfl
      exact regular entries (.refl none entries) entry member
    · obtain ⟨key, value⟩ := entry
      cases value with
      | object inner => exact fun object reaches => regular object (.inner member reaches)
      | array items =>
          exact fun isGroup element inside object reaches =>
            regular object (.group member isGroup inside reaches)
      | _ => trivial
  · intro regular object reaches
    cases reaches with
    | refl => exact fun entry member => (regular entry member).1 rfl
    | inner member reaches => exact (regular _ member).2 object reaches
    | group member isGroup inside reaches =>
        exact (regular _ member).2 isGroup _ inside object reaches

/-! ## Reading the explicit form -/

theorem ofEntry_object_singleton (field : Option String) (key inner : String)
    (value : Json) :
    ofEntry field key (.object [(inner, value)]) =
      .fields [ofEntry (fieldBelow field key) inner value] := by
  rw [ofEntry, ofEntries, ofEntries]

theorem ofEntry_explicitScalar_iff (field : Option String) (key : String) {value : Json}
    (scalar : ∀ field key, ofEntry field key value = ofScalar field key value)
    (noRecord : value.record? = none) :
    ofEntry field key (explicitScalar field key value) = ofEntry field key value ↔
      (field = none → isBareEquality (key, value) = false) := by
  have known : Operator.isKnown Operator.equality = true := by decide
  cases field with
  | some field =>
      by_cases isOperator : Operator.isKnown key = true
      · simp [explicitScalar, isOperator]
      · have different : key ≠ Operator.equality := by
          rintro rfl
          exact isOperator known
        simp [explicitScalar, isOperator, ofEntry_object_singleton, scalar, fieldBelow,
          different, ofScalar, known, implied]
  | none =>
      by_cases same : key = Operator.equality
      · simp [explicitScalar, ofEntry_object_singleton, scalar, fieldBelow, same,
          ofScalar, implied, isBareEquality, noRecord]
      · simp [explicitScalar, ofEntry_object_singleton, scalar, fieldBelow, same,
          ofScalar, known, implied, isBareEquality]

theorem ofEntry_explicitMembers_iff (field : Option String) {key : String}
    (noGroup : Combinator.ofKey? key = none) (values : List Json) :
    ofEntry field key (explicitMembers field values) =
        ofEntry field key (.array values) ↔
      (field = none → isBareEquality (key, .array values) = false) := by
  have member : Combinator.ofKey? "in" = none := by decide
  cases field with
  | some field => simp [explicitMembers]
  | none =>
      by_cases same : key = Operator.equality
      · subst same
        simp [explicitMembers, ofEntry_object_singleton, ofEntry, fieldBelow, member,
          noGroup, ofMembers, implied, isBareEquality, Json.record?]
      · simp [explicitMembers, ofEntry_object_singleton, ofEntry, fieldBelow, same,
          member, noGroup, ofMembers, implied, isBareEquality]

theorem ofItems_explicitItems_iff (items : List Json)
    (each : ∀ item ∈ items,
      (ofItem? (explicitItem item) = ofItem? item ↔ IsRegularItem item)) :
    ofItems (explicitItems items) = ofItems items ↔
      ∀ item ∈ items, IsRegularItem item := by
  have step (item : Json) (items : List Json) :
      ofItems (item :: items) = (ofItem? item).toList ++ ofItems items := by
    rw [ofItems]
    cases ofItem? item <;> rfl
  have width (item : Json) :
      (ofItem? (explicitItem item)).toList.length = (ofItem? item).toList.length := by
    cases item <;> rfl
  induction items with
  | nil => simp [explicitItems]
  | cons item items ih =>
      obtain ⟨first, rest⟩ := List.forall_mem_cons.mp each
      rw [explicitItems, step, step, List.forall_mem_cons]
      refine Iff.trans ?_ (and_congr first (ih rest))
      constructor
      · intro same
        obtain ⟨here, later⟩ := List.append_inj same (width item)
        exact ⟨by simpa using congrArg List.head? here, later⟩
      · rintro ⟨here, later⟩
        rw [here, later]

theorem ofEntries_explicitEntries_iff (field : Option String) (entries : Record)
    (each : ∀ entry ∈ entries,
      (ofEntry field entry.1 (explicitEntry field entry.1 entry.2) =
          ofEntry field entry.1 entry.2 ↔
        (field = none → isBareEquality entry = false) ∧
          IsRegularUnder field entry.1 entry.2)) :
    ofEntries field (explicitEntries field entries) = ofEntries field entries ↔
      IsRegular field entries := by
  rw [isRegular_iff, ofEntries_eq_map, explicitEntries_eq_map, List.map_map,
    ofEntries_eq_map, List.map_inj_left]
  exact forall₂_congr each

theorem ofItem?_ofEntry_explicit_iff (value : Json) :
    (ofItem? (explicitItem value) = ofItem? value ↔ IsRegularItem value) ∧
      ∀ field key, (ofEntry field key (explicitEntry field key value) =
          ofEntry field key value ↔
        (field = none → isBareEquality (key, value) = false) ∧
          IsRegularUnder field key value) := by
  induction value using Json.inductionOn with
  | object entries ih =>
      have inner (field : Option String) :
          ofEntries field (explicitEntries field entries) = ofEntries field entries ↔
            IsRegular field entries :=
        ofEntries_explicitEntries_iff field entries fun entry member =>
          (ih entry member).2 field entry.1
      constructor
      · simpa [ofItem?, explicitItem, IsRegularItem] using inner none
      · intro field key
        simpa [ofEntry, explicitEntry, IsRegularUnder, isBareEquality, Json.record?]
          using inner (fieldBelow field key)
  | array items ih =>
      have inner := ofItems_explicitItems_iff items fun item member => (ih item member).1
      rw [← isRegularItem_array_iff] at inner
      constructor
      · simpa [ofItem?, explicitItem] using inner
      · intro field key
        cases found : Combinator.ofKey? key with
        | none =>
            simp [explicitEntry, found, ofEntry_explicitMembers_iff field found,
              IsRegularUnder]
        | some combinator =>
            have different : key ≠ Operator.equality := by
              rintro rfl
              have noGroup : Combinator.ofKey? Operator.equality = none := by decide
              rw [noGroup] at found
              cases found
            simpa [explicitEntry, ofEntry, found, IsRegularUnder, isBareEquality, different,
              IsRegularItem] using inner
  | _ =>
      refine ⟨by simp [explicitItem, IsRegularItem], fun field key => ?_⟩
      simpa [explicitEntry, IsRegularUnder] using
        ofEntry_explicitScalar_iff field key (fun _ _ => rfl) rfl

/-- Reading the explicit form of an object gives the filter that the object itself
gives exactly if no object reached at a field position has the key of equality with
a scalar or a list. -/
theorem ofObject_explicitEntries_eq_iff (field : Option String) (entries : Record) :
    ofObject field (explicitEntries field entries) = ofObject field entries ↔
      ∀ object, Reaches field entries none object →
        ∀ entry ∈ object, isBareEquality entry = false := by
  rw [ofObject, ofObject, Filter.fields.injEq]
  exact ofEntries_explicitEntries_iff field entries fun entry _ =>
    (ofItem?_ofEntry_explicit_iff entry.2).2 field entry.1

end JsonSql.Filter
