import JsonSql.Filter.Normal
import JsonSql.Proofs.Leaves

/-!
# Conditions in JSON

The terminals of a list of values are the entries that hold a condition: those
with a scalar, and those with a list under a key other than `and` and `or`.
They are reached through objects and through lists of group elements.  The leaf
that a terminal stands for is read off the keys on the way to it.
-/

namespace JsonSql

inductive Step where
  | element (place : Nat)
  | entry (place : Nat) (key : String)
  deriving DecidableEq, Repr

def Step.place : Step → Nat
  | element place => place
  | entry place _ => place

/-- The steps from the outermost list to a value, the last step first. -/
abbrev Trail := List Step

namespace Trail

def opensGroup : Trail → Bool
  | .entry _ key :: _ => (Combinator.ofKey? key).isSome
  | _ => true

def keysInside : Trail → List String
  | .entry _ key :: trail => key :: keysInside trail
  | _ => []

/-- The field around what is at this place: the nearest key above it inside the
innermost group element, equality passed over. -/
def field? (trail : Trail) : Option String :=
  (keysInside trail).find? fun key => key != Operator.equality

/-- Two trails part at a step, and the first one has the smaller place there. -/
def Before (first second : Trail) : Prop :=
  ∃ outer step later innerFirst innerSecond,
    first = innerFirst ++ step :: outer ∧ second = innerSecond ++ later :: outer ∧
      step.place < later.place

inductive Reaches (start : Trail) (top : Json) : Trail → Json → Prop
  | refl : Reaches start top start top
  | element {trail items place value} : Reaches start top trail (.array items) →
      opensGroup trail = true → items[place]? = some value →
      Reaches start top (.element place :: trail) value
  | entry {trail entries place key value} : Reaches start top trail (.object entries) →
      entries[place]? = some (key, value) →
      Reaches start top (.entry place key :: trail) value

theorem Reaches.trans {start middle trail : Trail} {top between value : Json}
    (first : Reaches start top middle between)
    (second : Reaches middle between trail value) : Reaches start top trail value := by
  induction second with
  | refl => exact first
  | element _ opens found ih => exact .element ih opens found
  | entry _ found ih => exact .entry ih found

theorem Reaches.suffix {start trail : Trail} {top value : Json}
    (reaches : Reaches start top trail value) : start <:+ trail := by
  induction reaches with
  | refl => exact List.suffix_refl _
  | element _ _ _ ih => exact ih.trans (List.suffix_cons _ _)
  | entry _ _ ih => exact ih.trans (List.suffix_cons _ _)

theorem before_of_suffix {outer first second : Trail} {step later : Step}
    (fromStep : step :: outer <:+ first) (fromLater : later :: outer <:+ second)
    (less : step.place < later.place) : Before first second := by
  obtain ⟨innerFirst, rfl⟩ := fromStep
  obtain ⟨innerSecond, rfl⟩ := fromLater
  exact ⟨outer, step, later, innerFirst, innerSecond, rfl, rfl, less⟩

theorem not_before_self (trail : Trail) : ¬ Before trail trail := by
  rintro ⟨outer, step, later, innerFirst, innerSecond, first, second, less⟩
  have sameEnd := (List.append_inj' (first.symm.trans second) (by simp)).2
  obtain rfl : step = later := by simpa using sameEnd
  exact Nat.lt_irrefl _ less

end Trail

/-! ## Terminals -/

structure Terminal where
  above : Trail
  place : Nat
  key : String
  value : Json
  deriving Repr, Inhabited

namespace Terminal

def trail (terminal : Terminal) : Trail :=
  .entry terminal.place terminal.key :: terminal.above

def Before (first second : Terminal) : Prop := Trail.Before first.trail second.trail

/-- A value that is not looked into when it stands under `key`. -/
def endsUnder (key : String) : Json → Bool
  | .object _ => false
  | .array _ => (Combinator.ofKey? key).isNone
  | _ => true

def IsIn (terminal : Terminal) (items : List Json) : Prop :=
  Trail.Reaches [] (.array items) terminal.trail terminal.value ∧
    endsUnder terminal.key terminal.value = true

def operand (terminal : Terminal) : Operand :=
  match terminal.value with
  | .array values => .list values
  | value => .scalar value

def impliedOperator (terminal : Terminal) : String :=
  match terminal.value with
  | .array _ => "in"
  | _ => Operator.equality

/-- Below a field, a list makes any key an operator, a scalar only a known one. -/
def keyIsOperator (terminal : Terminal) : Bool :=
  match terminal.value with
  | .array _ => true
  | _ => Operator.isKnown terminal.key

def leaf (terminal : Terminal) : Leaf :=
  match Trail.field? terminal.above with
  | some field =>
      if terminal.keyIsOperator then ⟨field, terminal.key, terminal.operand⟩
      else ⟨terminal.key, terminal.impliedOperator, terminal.operand⟩
  | none => ⟨terminal.key, terminal.impliedOperator, terminal.operand⟩

end Terminal

mutual

def elementTerminals (trail : Trail) : Json → List Terminal
  | .object entries => entriesTerminals trail 0 entries
  | .array items => itemsTerminals trail 0 items
  | _ => []

def itemsTerminals (trail : Trail) (place : Nat) : List Json → List Terminal
  | [] => []
  | item :: items =>
      elementTerminals (.element place :: trail) item ++
        itemsTerminals trail (place + 1) items

def entryTerminals (above : Trail) (place : Nat) (key : String) :
    Json → List Terminal
  | .object entries => entriesTerminals (.entry place key :: above) 0 entries
  | .array items =>
      if (Combinator.ofKey? key).isSome then
        itemsTerminals (.entry place key :: above) 0 items
      else [⟨above, place, key, .array items⟩]
  | value => [⟨above, place, key, value⟩]

def entriesTerminals (trail : Trail) (place : Nat) :
    List (String × Json) → List Terminal
  | [] => []
  | (key, value) :: entries =>
      entryTerminals trail place key value ++
        entriesTerminals trail (place + 1) entries

end

def terminals (items : List Json) : List Terminal := itemsTerminals [] 0 items

def terminalsAt : Trail → Json → List Terminal
  | .entry place key :: above, value => entryTerminals above place key value
  | trail, value => elementTerminals trail value

theorem terminalsAt_object (trail : Trail) (entries : List (String × Json)) :
    terminalsAt trail (.object entries) = entriesTerminals trail 0 entries := by
  rcases trail with _ | ⟨_ | _, trail⟩ <;> rfl

theorem terminalsAt_array {trail : Trail} (opens : Trail.opensGroup trail = true)
    (items : List Json) :
    terminalsAt trail (.array items) = itemsTerminals trail 0 items := by
  rcases trail with _ | ⟨_ | ⟨place, key⟩, above⟩
  · rfl
  · rfl
  · exact if_pos opens

theorem terminalsAt_array_closed {trail : Trail}
    (closed : ¬ Trail.opensGroup trail = true) (items : List Json) :
    ∃ terminal, terminalsAt trail (.array items) = [terminal] ∧
      terminal.trail = trail ∧ terminal.value = .array items ∧
      Terminal.endsUnder terminal.key terminal.value = true := by
  rcases trail with _ | ⟨_ | ⟨place, key⟩, above⟩
  · exact absurd rfl closed
  · exact absurd rfl closed
  · refine ⟨⟨above, place, key, .array items⟩, if_neg closed, rfl, rfl, ?_⟩
    simpa [Trail.opensGroup, Terminal.endsUnder] using closed

theorem mem_itemsTerminals {terminal : Terminal} {trail : Trail} {place : Nat}
    {items : List Json} :
    terminal ∈ itemsTerminals trail place items ↔
      ∃ index item, items[index]? = some item ∧
        terminal ∈ terminalsAt (.element (place + index) :: trail) item := by
  induction items generalizing place with
  | nil => simp [itemsTerminals]
  | cons item items ih =>
      rw [itemsTerminals, List.mem_append, ih]
      constructor
      · rintro (here | ⟨index, other, found, there⟩)
        · exact ⟨0, item, rfl, here⟩
        · refine ⟨index + 1, other, found, ?_⟩
          rwa [Nat.add_right_comm, Nat.add_assoc] at there
      · rintro ⟨_ | index, other, found, there⟩
        · obtain rfl : item = other := by simpa using found
          exact .inl there
        · refine .inr ⟨index, other, found, ?_⟩
          rwa [Nat.add_right_comm, Nat.add_assoc]

theorem mem_entriesTerminals {terminal : Terminal} {trail : Trail} {place : Nat}
    {entries : List (String × Json)} :
    terminal ∈ entriesTerminals trail place entries ↔
      ∃ index key value, entries[index]? = some (key, value) ∧
        terminal ∈ terminalsAt (.entry (place + index) key :: trail) value := by
  induction entries generalizing place with
  | nil => simp [entriesTerminals]
  | cons entry entries ih =>
      obtain ⟨key, value⟩ := entry
      rw [entriesTerminals, List.mem_append, ih]
      constructor
      · rintro (here | ⟨index, otherKey, other, found, there⟩)
        · exact ⟨0, key, value, rfl, here⟩
        · refine ⟨index + 1, otherKey, other, found, ?_⟩
          rwa [Nat.add_right_comm, Nat.add_assoc] at there
      · rintro ⟨_ | index, otherKey, other, found, there⟩
        · obtain ⟨rfl, rfl⟩ : key = otherKey ∧ value = other := by simpa using found
          exact .inl there
        · refine .inr ⟨index, otherKey, other, found, ?_⟩
          rwa [Nat.add_right_comm, Nat.add_assoc]

theorem reaches_of_mem_terminalsAt (value : Json) :
    ∀ trail, ∀ terminal ∈ terminalsAt trail value,
      Trail.Reaches trail value terminal.trail terminal.value ∧
        Terminal.endsUnder terminal.key terminal.value = true := by
  induction value using Json.inductionOn with
  | array items ih =>
      intro trail terminal member
      by_cases opens : Trail.opensGroup trail = true
      · rw [terminalsAt_array opens, mem_itemsTerminals] at member
        obtain ⟨index, item, found, inner⟩ := member
        obtain ⟨reaches, ends⟩ := ih item (List.mem_of_getElem? found) _ terminal inner
        rw [Nat.zero_add] at reaches
        exact ⟨(Trail.Reaches.element .refl opens found).trans reaches, ends⟩
      · obtain ⟨single, here, rfl, sameValue, ends⟩ :=
          terminalsAt_array_closed opens items
        obtain rfl : terminal = single := by simpa [here] using member
        rw [← sameValue]
        exact ⟨.refl, ends⟩
  | object entries ih =>
      intro trail terminal member
      rw [terminalsAt_object, mem_entriesTerminals] at member
      obtain ⟨index, key, value, found, inner⟩ := member
      obtain ⟨reaches, ends⟩ :=
        ih (key, value) (List.mem_of_getElem? found) _ terminal inner
      rw [Nat.zero_add] at reaches
      exact ⟨(Trail.Reaches.entry .refl found).trans reaches, ends⟩
  | _ =>
      intro trail terminal member
      rcases trail with _ | ⟨_ | ⟨place, key⟩, above⟩
      · simp [terminalsAt, elementTerminals] at member
      · simp [terminalsAt, elementTerminals] at member
      · rw [terminalsAt, entryTerminals, List.mem_singleton] at member <;> try simp
        subst member
        exact ⟨.refl, rfl⟩

theorem terminalsAt_subset {start trail : Trail} {top value : Json}
    (reaches : Trail.Reaches start top trail value) :
    terminalsAt trail value ⊆ terminalsAt start top := by
  induction reaches with
  | refl => exact List.Subset.refl _
  | element _ opens found ih =>
      intro terminal member
      refine ih ?_
      rw [terminalsAt_array opens, mem_itemsTerminals]
      exact ⟨_, _, found, by rwa [Nat.zero_add]⟩
  | entry _ found ih =>
      intro terminal member
      refine ih ?_
      rw [terminalsAt_object, mem_entriesTerminals]
      exact ⟨_, _, _, found, by rwa [Nat.zero_add]⟩

theorem Terminal.mem_terminalsAt_trail (terminal : Terminal)
    (ends : endsUnder terminal.key terminal.value = true) :
    terminal ∈ terminalsAt terminal.trail terminal.value := by
  obtain ⟨above, place, key, value⟩ := terminal
  cases value with
  | array items =>
      have closed : ¬ (Combinator.ofKey? key).isSome = true := by
        simpa [endsUnder] using ends
      simp [trail, terminalsAt, entryTerminals, closed]
  | object entries => simp [endsUnder] at ends
  | _ => simp [trail, terminalsAt, entryTerminals]

theorem mem_terminals_iff (items : List Json) (terminal : Terminal) :
    terminal ∈ terminals items ↔ terminal.IsIn items := by
  constructor
  · exact reaches_of_mem_terminalsAt (.array items) [] terminal
  · rintro ⟨reaches, ends⟩
    exact terminalsAt_subset reaches (terminal.mem_terminalsAt_trail ends)

/-! ## The order of the document -/

theorem suffix_of_mem_terminalsAt (trail : Trail) (value : Json) {terminal : Terminal}
    (member : terminal ∈ terminalsAt trail value) : trail <:+ terminal.trail :=
  (reaches_of_mem_terminalsAt value trail terminal member).1.suffix

theorem pairwise_itemsTerminals (trail : Trail) (place : Nat) (items : List Json)
    (inner : ∀ item ∈ items, ∀ trail,
      (terminalsAt trail item).Pairwise Terminal.Before) :
    (itemsTerminals trail place items).Pairwise Terminal.Before := by
  induction items generalizing place with
  | nil => exact .nil
  | cons item items ih =>
      obtain ⟨innerFirst, innerRest⟩ := List.forall_mem_cons.mp inner
      refine List.pairwise_append.mpr
        ⟨innerFirst (.element place :: trail), ih _ innerRest, ?_⟩
      intro first here second there
      obtain ⟨index, other, _, there⟩ := mem_itemsTerminals.mp there
      refine Trail.before_of_suffix
        (suffix_of_mem_terminalsAt (.element place :: trail) item here)
        (suffix_of_mem_terminalsAt _ other there) ?_
      simp only [Step.place]
      omega

theorem pairwise_entriesTerminals (trail : Trail) (place : Nat)
    (entries : List (String × Json))
    (inner : ∀ entry ∈ entries, ∀ trail,
      (terminalsAt trail entry.2).Pairwise Terminal.Before) :
    (entriesTerminals trail place entries).Pairwise
      Terminal.Before := by
  induction entries generalizing place with
  | nil => exact .nil
  | cons entry entries ih =>
      obtain ⟨key, value⟩ := entry
      obtain ⟨innerFirst, innerRest⟩ := List.forall_mem_cons.mp inner
      refine List.pairwise_append.mpr
        ⟨innerFirst (.entry place key :: trail), ih _ innerRest, ?_⟩
      intro first here second there
      obtain ⟨index, otherKey, other, _, there⟩ := mem_entriesTerminals.mp there
      refine Trail.before_of_suffix
        (suffix_of_mem_terminalsAt (.entry place key :: trail) value here)
        (suffix_of_mem_terminalsAt _ other there) ?_
      simp only [Step.place]
      omega

theorem pairwise_terminalsAt (value : Json) :
    ∀ trail, (terminalsAt trail value).Pairwise Terminal.Before := by
  induction value using Json.inductionOn with
  | array items ih =>
      intro trail
      by_cases opens : Trail.opensGroup trail = true
      · rw [terminalsAt_array opens]
        exact pairwise_itemsTerminals trail 0 items ih
      · obtain ⟨single, here, -⟩ := terminalsAt_array_closed opens items
        rw [here]
        exact List.pairwise_singleton _ _
  | object entries ih =>
      intro trail
      rw [terminalsAt_object]
      exact pairwise_entriesTerminals trail 0 entries ih
  | _ =>
      intro trail
      rcases trail with _ | ⟨_ | ⟨place, key⟩, above⟩ <;>
        simp [terminalsAt, elementTerminals, entryTerminals]

/-! ## Leaves of a filter read from JSON -/

namespace Filter

theorem fieldBelow_eq (above : Trail) (place : Nat) (key : String) :
    fieldBelow (Trail.field? above) key = Trail.field? (.entry place key :: above) := by
  by_cases same : key = Operator.equality <;>
    simp [fieldBelow, Trail.field?, Trail.keysInside, same]

theorem leaves_ofScalar (above : Trail) (place : Nat) (key : String) (value : Json)
    (scalar : ∀ items, value ≠ .array items) :
    (ofScalar (Trail.field? above) key value).leaves =
      [Terminal.leaf ⟨above, place, key, value⟩] := by
  cases value with
  | array items => exact absurd rfl (scalar items)
  | _ =>
      cases around : Trail.field? above with
      | none =>
          simp [ofScalar, implied, leaves, allLeaves, Terminal.leaf, around,
            Terminal.operand, Terminal.impliedOperator]
      | some field =>
          by_cases known : Operator.isKnown key = true <;>
            simp [ofScalar, implied, leaves, allLeaves, Terminal.leaf, around, known,
              Terminal.operand, Terminal.impliedOperator, Terminal.keyIsOperator]

theorem leaves_ofMembers (above : Trail) (place : Nat) (key : String)
    (items : List Json) :
    (ofMembers (Trail.field? above) key items).leaves =
      [Terminal.leaf ⟨above, place, key, .array items⟩] := by
  cases around : Trail.field? above <;>
    simp [ofMembers, implied, leaves, allLeaves, Terminal.leaf, around,
      Terminal.operand, Terminal.impliedOperator, Terminal.keyIsOperator]

-- The field that is passed down is the one that the trail gives, at every entry.
mutual

theorem leaves_ofItem? (trail : Trail) (place : Nat) : (item : Json) →
    allLeaves (ofItem? item).toList =
      (elementTerminals (.element place :: trail) item).map Terminal.leaf
  | .object entries => by
      have inner := leaves_ofEntries (.element place :: trail) 0 entries
      rw [ofItem?, elementTerminals, ← inner]
      exact List.append_nil _
  | .array items => by
      have inner := leaves_ofItems (.element place :: trail) 0 items
      rw [ofItem?, elementTerminals, ← inner]
      exact List.append_nil _
  | .null | .boolean _ | .number _ | .string _ => rfl

theorem leaves_ofItems (trail : Trail) (place : Nat) : (items : List Json) →
    allLeaves (ofItems items) = (itemsTerminals trail place items).map Terminal.leaf
  | [] => rfl
  | item :: items => by
      have split : ofItems (item :: items) = (ofItem? item).toList ++ ofItems items := by
        rw [ofItems]
        cases ofItem? item <;> rfl
      rw [split, allLeaves_append, itemsTerminals, List.map_append,
        leaves_ofItem? trail place item, leaves_ofItems trail (place + 1) items]

theorem leaves_ofEntry (above : Trail) (place : Nat) (key : String) : (value : Json) →
    (ofEntry (Trail.field? above) key value).leaves =
      (entryTerminals above place key value).map Terminal.leaf
  | .object entries => by
      rw [ofEntry, leaves, entryTerminals, fieldBelow_eq above place key]
      exact leaves_ofEntries (.entry place key :: above) 0 entries
  | .array items => by
      rw [ofEntry, entryTerminals]
      cases Combinator.ofKey? key with
      | none => exact leaves_ofMembers above place key items
      | some combinator => exact leaves_ofItems (.entry place key :: above) 0 items
  | .null | .boolean _ | .number _ | .string _ =>
      leaves_ofScalar above place key _ (by simp)

theorem leaves_ofEntries (trail : Trail) (place : Nat) :
    (entries : List (String × Json)) →
      allLeaves (ofEntries (Trail.field? trail) entries) =
        (entriesTerminals trail place entries).map Terminal.leaf
  | [] => rfl
  | (key, value) :: entries => by
      rw [ofEntries, allLeaves, entriesTerminals, List.map_append,
        leaves_ofEntry trail place key value, leaves_ofEntries trail (place + 1) entries]

end

theorem leaves_ofList (combinator : Combinator) (items : List Json) :
    (ofList combinator items).leaves = (terminals items).map Terminal.leaf :=
  leaves_ofItems [] 0 items

/-- Reading a filter from a list of values loses, repeats and misplaces nothing:
its leaves are those of the terminals, in the order of the document, and these
are all the entries in the list that hold a condition. -/
theorem leaves_ofList_eq_terminals (combinator : Combinator) (items : List Json) :
    (ofList combinator items).leaves = (terminals items).map Terminal.leaf ∧
      (∀ terminal, terminal ∈ terminals items ↔ terminal.IsIn items) ∧
      (terminals items).Pairwise Terminal.Before ∧ (terminals items).Nodup := by
  have ordered : (terminals items).Pairwise Terminal.Before :=
    pairwise_terminalsAt (.array items) []
  refine ⟨leaves_ofList combinator items, mem_terminals_iff items, ordered, ?_⟩
  refine ordered.imp ?_
  rintro first _ before rfl
  exact Trail.not_before_self _ before

end Filter

end JsonSql
