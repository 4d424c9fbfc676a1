import Mathlib.Data.List.Pairwise
import Mathlib.Logic.Relation
import JsonSql.Proofs.Spelling

/-!
# Restatements of a structure

An object may be restated with other names for its fields and with entries under
unknown names, and a list as the object that pairs the names of the fields with its
elements.  A layout whose slots serve the fields reads both alike, failures included.
Where the entries are moved as well, another failure may come first, but the value
that is read stays the same.
-/

namespace JsonSql

inductive EntryOrder where
  | kept
  | free
  deriving DecidableEq, Repr

/-- Two readings with the same result, or at least with the same value if there is one. -/
def EntryOrder.Agree : EntryOrder → Except ReadError β → Except ReadError β → Prop
  | kept, first, second => first = second
  | free, first, second => ∀ value, first = .ok value ↔ second = .ok value

theorem bind_eq_ok_iff {first : Except ε α} {next : α → Except ε β} {value : β} :
    first >>= next = .ok value ↔ ∃ part, first = .ok part ∧ next part = .ok value := by
  cases first with
  | error failure =>
      constructor
      · intro read
        cases read
      · rintro ⟨_, read, -⟩
        cases read
  | ok part =>
      constructor
      · exact fun read => ⟨part, rfl, read⟩
      · rintro ⟨_, same, read⟩
        cases same
        exact read

namespace EntryOrder.Agree

variable {β γ : Type} {order : EntryOrder} {first second third : Except ReadError β}

theorem of_eq (same : first = second) : order.Agree first second := by
  subst same
  cases order with
  | kept => rfl
  | free => exact fun _ => Iff.rfl

theorem symm (agree : order.Agree first second) : order.Agree second first := by
  cases order with
  | kept => exact Eq.symm agree
  | free => exact fun value => (agree value).symm

theorem trans (agree : order.Agree first second) (further : order.Agree second third) :
    order.Agree first third := by
  cases order with
  | kept => exact Eq.trans agree further
  | free => exact fun value => (agree value).trans (further value)

theorem bind (agree : order.Agree first second) {next other : β → Except ReadError γ}
    (agreeNext : ∀ part, order.Agree (next part) (other part)) :
    order.Agree (first >>= next) (second >>= other) := by
  cases order with
  | kept =>
      have same : next = other := funext agreeNext
      exact congrArg₂ (· >>= ·) agree same
  | free =>
      intro value
      simp only [bind_eq_ok_iff]
      exact exists_congr fun part => and_congr (agree part) (agreeNext part value)

theorem map (agree : order.Agree first second) (make : β → γ) :
    order.Agree (first.map make) (second.map make) := by
  have asBind (read : Except ReadError β) :
      read.map make = read >>= fun part => .ok (make part) := by
    cases read <;> rfl
  rw [asBind, asBind]
  exact agree.bind fun _ => .of_eq rfl

end EntryOrder.Agree

/-! ## Restatements -/

/-- A field with the names it goes by, the values that may stand for one another in it,
and whether there is no default for it. -/
structure RestatedField where
  name : String
  aliases : List String := []
  Same : Json → Json → Prop := Eq
  Needed : Prop := False

def RestatedField.names (field : RestatedField) : List String := field.name :: field.aliases

/-- One change to the way in which the fields of a structure are written. -/
inductive RestatesOnce (order : EntryOrder) (fields : List RestatedField) :
    Json → Json → Prop
  | rewritten {before after : Record} {field : RestatedField} {key otherKey : String}
      {value otherValue : Json} : field ∈ fields → key ∈ field.names →
      otherKey ∈ field.names → field.Same value otherValue →
      RestatesOnce order fields (.object (before ++ (key, value) :: after))
        (.object (before ++ (otherKey, otherValue) :: after))
  | added {before after : Record} {key : String} {value : Json} :
      (∀ field ∈ fields, key ∉ field.names) →
      RestatesOnce order fields (.object (before ++ after))
        (.object (before ++ (key, value) :: after))
  /-- A list without the elements that are needed is no such object, as the failures
  for what is missing differ. -/
  | keyed {items : List Json} : items.length ≤ fields.length →
      (∀ field ∈ fields.drop items.length, ¬ field.Needed) →
      RestatesOnce order fields (.array items)
        (.object ((fields.map RestatedField.name).zip items))
  | moved {entries others : Record} : order = .free → entries.Perm others →
      RestatesOnce order fields (.object entries) (.object others)

def Restated (order : EntryOrder) (fields : List RestatedField) : Json → Json → Prop :=
  Relation.EqvGen (RestatesOnce order fields)

theorem RestatesOnce.restated {order : EntryOrder} {fields : List RestatedField}
    {value other : Json} (once : RestatesOnce order fields value other) :
    Restated order fields value other :=
  .rel _ _ once

theorem Restated.trans {order : EntryOrder} {fields : List RestatedField}
    {value other further : Json} (restated : Restated order fields value other)
    (again : Restated order fields other further) : Restated order fields value further :=
  Relation.EqvGen.trans _ _ _ restated again

/-- A slot for a field: it answers the names of the field, and takes values alike that
may stand for one another. -/
structure Slot.Serves (order : EntryOrder) (slot : Slot δ) (field : RestatedField) :
    Prop where
  names : ∀ key, slot.answersTo key = true ↔ key ∈ field.names
  same : ∀ value other draft, field.Same value other →
    order.Agree (slot.fill value draft) (slot.fill other draft)

def Slot.Fills (slot : Slot δ) : Prop :=
  ∀ value draft next, slot.fill value draft = .ok next → slot.isFilled next = true

structure Slot.Independent (first second : Slot δ) : Prop where
  keys : ∀ key, first.answersTo key = true → second.answersTo key = false
  keepsSecond : ∀ value draft next, first.fill value draft = .ok next →
    second.isFilled next = second.isFilled draft
  keepsFirst : ∀ value draft next, second.fill value draft = .ok next →
    first.isFilled next = first.isFilled draft
  commute : ∀ value other draft, EntryOrder.free.Agree
    (first.fill value draft >>= second.fill other)
    (second.fill other draft >>= first.fill value)

theorem Slot.Independent.symm {first second : Slot δ} (apart : first.Independent second) :
    second.Independent first where
  keys key answers := by
    rw [Bool.eq_false_iff]
    intro otherAnswers
    rw [apart.keys key otherAnswers] at answers
    cases answers
  keepsSecond := apart.keepsFirst
  keepsFirst := apart.keepsSecond
  commute value other draft := (apart.commute other value draft).symm

instance : Std.Symm (@Slot.Independent δ) := ⟨fun _ _ => Slot.Independent.symm⟩

section

variable {all slots : List (Slot δ)} {slot : Slot δ} {fields : List RestatedField}
  {field : RestatedField} {order : EntryOrder} {key : String} {value : Json}
  {draft filled : δ}

theorem find?_of_independent (apart : slots.Pairwise Slot.Independent)
    (member : slot ∈ slots) (answers : slot.answersTo key = true) :
    slots.find? (·.answersTo key) = some slot := by
  obtain ⟨before, after, rfl⟩ := List.append_of_mem member
  refine List.find?_eq_some_iff_append.mpr ⟨answers, before, after, rfl, ?_⟩
  intro other earlier
  have distinct := (List.pairwise_append.mp apart).2.2 other earlier slot List.mem_cons_self
  rw [distinct.symm.keys key answers]
  rfl

theorem find?_of_unknown (serves : List.Forall₂ (Slot.Serves order) slots fields)
    (unknown : ∀ field ∈ fields, key ∉ field.names) :
    slots.find? (·.answersTo key) = none := by
  refine List.find?_eq_none.mpr ?_
  intro slot member answers
  obtain ⟨field, inFields, serving⟩ := exists_right_of_forall₂ serves member
  exact unknown field inFields ((serving.names key).mp answers)

/-! ## Entries one by one -/

def fillEntry (slots : List (Slot δ)) (draft : δ) (entry : String × Json) :
    Except ReadError δ :=
  match slots.find? (·.answersTo entry.1) with
  | none => .ok draft
  | some slot =>
      if slot.isFilled draft then .error (.duplicate slot.name)
      else slot.fill entry.2 draft

theorem fillEntry_of_none (unknown : slots.find? (·.answersTo key) = none) (draft : δ) :
    fillEntry slots draft (key, value) = .ok draft := by
  rw [fillEntry, unknown]

theorem fillEntry_of_some (found : slots.find? (·.answersTo key) = some slot) (draft : δ) :
    fillEntry slots draft (key, value) =
      if slot.isFilled draft then .error (.duplicate slot.name)
      else slot.fill value draft := by
  rw [fillEntry, found]

theorem fillEntry_eq_ok_iff (found : slots.find? (·.answersTo key) = some slot) :
    fillEntry slots draft (key, value) = .ok filled ↔
      slot.isFilled draft = false ∧ slot.fill value draft = .ok filled := by
  rw [fillEntry_of_some found]
  cases slot.isFilled draft <;> simp

theorem fillByKey_eq_foldlM (entries : Record) :
    fillByKey slots draft entries = entries.foldlM (fillEntry slots) draft := by
  induction entries generalizing draft with
  | nil => rfl
  | cons entry entries ih =>
      obtain ⟨key, value⟩ := entry
      rw [List.foldlM_cons, fillByKey]
      cases found : slots.find? (·.answersTo key) with
      | none =>
          rw [fillEntry_of_none found]
          exact ih
      | some slot =>
          rw [fillEntry_of_some found]
          dsimp only
          cases slot.isFilled draft with
          | true => rfl
          | false => exact congrArg (slot.fill value draft >>= ·) (funext fun _ => ih)

theorem fillEntry_of_rewritten (serves : List.Forall₂ (Slot.Serves order) slots fields)
    (apart : slots.Pairwise Slot.Independent) (member : field ∈ fields)
    {otherKey : String} {other : Json} (named : key ∈ field.names)
    (otherNamed : otherKey ∈ field.names) (same : field.Same value other) (draft : δ) :
    order.Agree (fillEntry slots draft (key, value))
      (fillEntry slots draft (otherKey, other)) := by
  obtain ⟨slot, inSlots, serving⟩ := exists_left_of_forall₂ serves member
  have found := find?_of_independent apart inSlots ((serving.names key).mpr named)
  have otherFound :=
    find?_of_independent apart inSlots ((serving.names otherKey).mpr otherNamed)
  rw [fillEntry_of_some found, fillEntry_of_some otherFound]
  cases slot.isFilled draft with
  | true => exact .of_eq rfl
  | false => exact serving.same value other draft same

theorem foldlM_of_rewritten {before after : Record} {entry other : String × Json}
    (agree : ∀ draft,
      order.Agree (fillEntry slots draft entry) (fillEntry slots draft other))
    (draft : δ) :
    order.Agree ((before ++ entry :: after).foldlM (fillEntry slots) draft)
      ((before ++ other :: after).foldlM (fillEntry slots) draft) := by
  simp only [List.foldlM_append, List.foldlM_cons]
  exact .bind (.of_eq rfl) fun between => .bind (agree between) fun _ => .of_eq rfl

theorem foldlM_of_added {before after : Record}
    (unknown : slots.find? (·.answersTo key) = none) (draft : δ) :
    (before ++ (key, value) :: after).foldlM (fillEntry slots) draft =
      (before ++ after).foldlM (fillEntry slots) draft := by
  simp only [List.foldlM_append, List.foldlM_cons, fillEntry_of_none unknown]
  rfl

theorem fillEntry_twice_ne_ok (fills : slot.Fills)
    (found : slots.find? (·.answersTo key) = some slot) {otherKey : String}
    (alsoFound : slots.find? (·.answersTo otherKey) = some slot) (other : Json) :
    fillEntry slots draft (key, value) >>= (fillEntry slots · (otherKey, other)) ≠
      .ok filled := by
  intro read
  obtain ⟨next, here, later⟩ := bind_eq_ok_iff.mp read
  have full := fills value draft next ((fillEntry_eq_ok_iff found).mp here).2
  have blank := ((fillEntry_eq_ok_iff alsoFound).mp later).1
  rw [full] at blank
  cases blank

theorem fillEntry_both_eq_ok_iff (found : slots.find? (·.answersTo key) = some slot)
    {otherKey : String} {otherSlot : Slot δ}
    (otherFound : slots.find? (·.answersTo otherKey) = some otherSlot)
    (apart : slot.Independent otherSlot) (other : Json) :
    fillEntry slots draft (key, value) >>= (fillEntry slots · (otherKey, other)) =
        .ok filled ↔
      (slot.isFilled draft = false ∧ otherSlot.isFilled draft = false) ∧
        slot.fill value draft >>= otherSlot.fill other = .ok filled := by
  simp only [bind_eq_ok_iff, fillEntry_eq_ok_iff found, fillEntry_eq_ok_iff otherFound]
  constructor
  · rintro ⟨next, ⟨blank, here⟩, otherBlank, later⟩
    rw [apart.keepsSecond value draft next here] at otherBlank
    exact ⟨⟨blank, otherBlank⟩, next, here, later⟩
  · rintro ⟨⟨blank, otherBlank⟩, next, here, later⟩
    rw [← apart.keepsSecond value draft next here] at otherBlank
    exact ⟨next, ⟨blank, here⟩, otherBlank, later⟩

theorem fillEntry_comm (fills : ∀ slot ∈ slots, slot.Fills)
    (apart : slots.Pairwise Slot.Independent) (first second : String × Json) (draft : δ) :
    EntryOrder.free.Agree (fillEntry slots draft first >>= (fillEntry slots · second))
      (fillEntry slots draft second >>= (fillEntry slots · first)) := by
  obtain ⟨key, value⟩ := first
  obtain ⟨otherKey, other⟩ := second
  intro filled
  cases found : slots.find? (·.answersTo key) with
  | none => simp [bind_eq_ok_iff, fillEntry_of_none found]
  | some slot =>
    cases otherFound : slots.find? (·.answersTo otherKey) with
    | none => simp [bind_eq_ok_iff, fillEntry_of_none otherFound]
    | some otherSlot =>
        have member := List.mem_of_find?_eq_some found
        by_cases same : slot = otherSlot
        · subst same
          have full := fills slot member
          exact iff_of_false (fillEntry_twice_ne_ok full found otherFound other)
            (fillEntry_twice_ne_ok full otherFound found value)
        · have distinct : slot.Independent otherSlot :=
            apart.forall member (List.mem_of_find?_eq_some otherFound) same
          rw [fillEntry_both_eq_ok_iff found otherFound distinct,
            fillEntry_both_eq_ok_iff otherFound found distinct.symm,
            and_comm (a := slot.isFilled draft = false)]
          exact and_congr_right' (distinct.commute value other draft filled)

theorem foldlM_of_perm (fills : ∀ slot ∈ slots, slot.Fills)
    (apart : slots.Pairwise Slot.Independent) {entries others : Record}
    (moved : entries.Perm others) (draft : δ) :
    EntryOrder.free.Agree (entries.foldlM (fillEntry slots) draft)
      (others.foldlM (fillEntry slots) draft) := by
  induction moved generalizing draft with
  | nil => exact .of_eq rfl
  | cons entry _ ih =>
      simp only [List.foldlM_cons]
      exact .bind (.of_eq rfl) ih
  | swap first second rest =>
      simp only [List.foldlM_cons, ← bind_assoc]
      exact .bind (fillEntry_comm fills apart second first draft) fun _ => .of_eq rfl
  | trans _ _ ih further => exact (ih draft).trans (further draft)

theorem fillInOrder_eq_foldlM (serves : List.Forall₂ (Slot.Serves order) slots fields)
    (apart : slots.Pairwise Slot.Independent)
    (found : ∀ slot ∈ slots, ∀ key, slot.answersTo key = true →
      all.find? (·.answersTo key) = some slot)
    (blank : ∀ slot ∈ slots, slot.isFilled draft = false) (length : Nat) {items : List Json}
    (short : items.length ≤ fields.length) :
    fillInOrder length slots draft items =
      ((fields.map RestatedField.name).zip items).foldlM (fillEntry all) draft := by
  -- The slots behind those that are filled are blank, so no entry comes too often.
  induction serves generalizing draft items with
  | nil =>
      obtain rfl : items = [] := List.length_eq_zero_iff.mp (Nat.le_zero.mp short)
      rfl
  | @cons slot field slots fields serving _ ih =>
      cases items with
      | nil => rfl
      | cons item items =>
          obtain ⟨foundHere, foundLater⟩ := List.forall_mem_cons.mp found
          obtain ⟨blankHere, blankLater⟩ := List.forall_mem_cons.mp blank
          obtain ⟨head, apart⟩ := List.pairwise_cons.mp apart
          have answers := (serving.names field.name).mpr List.mem_cons_self
          rw [fillInOrder, List.map_cons, List.zip_cons_cons, List.foldlM_cons,
            fillEntry_of_some (foundHere _ answers), blankHere]
          cases taken : slot.fill item draft with
          | error failure => rfl
          | ok next =>
              have stillBlank : ∀ other ∈ slots, other.isFilled next = false := by
                intro other member
                rw [(head other member).keepsSecond item draft next taken]
                exact blankLater other member
              exact ih apart foundLater stillBlank (Nat.le_of_succ_le_succ short)

theorem isFilled_of_fillInOrder {kept : Slot δ}
    (apart : ∀ slot ∈ slots, kept.Independent slot) {length : Nat} {items : List Json}
    (read : fillInOrder length slots draft items = .ok filled) :
    kept.isFilled filled = kept.isFilled draft := by
  induction items generalizing slots draft with
  | nil =>
      cases slots <;> (cases read; rfl)
  | cons item items ih =>
      cases slots with
      | nil => cases read
      | cons slot slots =>
          obtain ⟨head, later⟩ := List.forall_mem_cons.mp apart
          obtain ⟨next, taken, rest⟩ := bind_eq_ok_iff.mp read
          rw [ih later rest, head.keepsFirst item draft next taken]

theorem needed_filled (serves : List.Forall₂ (Slot.Serves order) slots fields)
    (fills : ∀ slot ∈ slots, slot.Fills) (apart : slots.Pairwise Slot.Independent)
    {length : Nat} {items : List Json}
    (others : ∀ field ∈ fields.drop items.length, ¬ field.Needed)
    (read : fillInOrder length slots draft items = .ok filled) :
    List.Forall₂ (fun slot field => field.Needed → slot.isFilled filled = true)
      slots fields := by
  induction serves generalizing draft items with
  | nil => exact .nil
  | @cons slot field slots fields _ _ ih =>
      obtain ⟨fillsHere, fillsLater⟩ := List.forall_mem_cons.mp fills
      obtain ⟨head, apart⟩ := List.pairwise_cons.mp apart
      cases items with
      | nil =>
          obtain ⟨notHere, notLater⟩ := List.forall_mem_cons.mp others
          have nothing : fillInOrder length slots draft [] = .ok draft := by
            cases slots <;> rfl
          cases read
          exact .cons (fun needed => absurd needed notHere)
            (ih fillsLater apart (by simpa using notLater) nothing)
      | cons item items =>
          obtain ⟨next, taken, rest⟩ := bind_eq_ok_iff.mp read
          have full := fillsHere item draft next taken
          rw [← isFilled_of_fillInOrder head rest] at full
          exact .cons (fun _ => full) (ih fillsLater apart others rest)

end

/-! ## Layouts -/

/-- A layout for fields: its slots serve them, and a draft in which those that are needed
are filled is finished without a failure for what is missing. -/
structure Layout.Serves (order : EntryOrder) (layout : Layout δ α)
    (fields : List RestatedField) : Prop where
  slots : List.Forall₂ (Slot.Serves order) layout.slots fields
  fills : ∀ slot ∈ layout.slots, slot.Fills
  apart : layout.slots.Pairwise Slot.Independent
  blank : ∀ slot ∈ layout.slots, slot.isFilled layout.start = false
  finish : ∀ absent other draft,
    List.Forall₂ (fun slot field => field.Needed → slot.isFilled draft = true)
      layout.slots fields →
    layout.finish absent draft = layout.finish other draft

theorem Layout.read_object (layout : Layout δ α) (entries : Record) :
    layout.read (.object entries) =
      entries.foldlM (fillEntry layout.slots) layout.start >>= layout.finish .missing := by
  rw [Layout.read, fillByKey_eq_foldlM]

namespace Layout.Serves

variable {layout : Layout δ α} {fields : List RestatedField} {order : EntryOrder}

theorem read_keyed (serves : layout.Serves order fields) {items : List Json}
    (short : items.length ≤ fields.length)
    (others : ∀ field ∈ fields.drop items.length, ¬ field.Needed) :
    layout.read (.array items) =
      layout.read (.object ((fields.map RestatedField.name).zip items)) := by
  have found : ∀ slot ∈ layout.slots, ∀ key, slot.answersTo key = true →
      layout.slots.find? (·.answersTo key) = some slot :=
    fun _ member _ => find?_of_independent serves.apart member
  rw [read_object, Layout.read,
    ← fillInOrder_eq_foldlM serves.slots serves.apart found serves.blank items.length short]
  cases read : fillInOrder items.length layout.slots layout.start items with
  | error failure => rfl
  | ok draft =>
      exact serves.finish _ _ draft (needed_filled serves.slots serves.fills serves.apart
        others read)

theorem agree_of_restatesOnce (serves : layout.Serves order fields) {value other : Json}
    (restates : RestatesOnce order fields value other) :
    order.Agree (layout.read value) (layout.read other) := by
  cases restates with
  | rewritten member named otherNamed same =>
      rw [read_object, read_object]
      have agree :=
        fillEntry_of_rewritten serves.slots serves.apart member named otherNamed same
      exact .bind (foldlM_of_rewritten agree layout.start) fun _ => .of_eq rfl
  | added unknown =>
      rw [read_object, read_object, foldlM_of_added (find?_of_unknown serves.slots unknown)]
      exact .of_eq rfl
  | keyed short others => exact .of_eq (serves.read_keyed short others)
  | moved free moved =>
      subst free
      rw [read_object, read_object]
      exact .bind (foldlM_of_perm serves.fills serves.apart moved layout.start)
        fun _ => .of_eq rfl

theorem agree_of_restated (serves : layout.Serves order fields) {value other : Json}
    (restated : Restated order fields value other) :
    order.Agree (layout.read value) (layout.read other) := by
  induction restated with
  | rel _ _ once => exact serves.agree_of_restatesOnce once
  | refl _ => exact .of_eq rfl
  | symm _ _ _ ih => exact ih.symm
  | trans _ _ _ _ _ ih further => exact ih.trans further

end Layout.Serves

end JsonSql
