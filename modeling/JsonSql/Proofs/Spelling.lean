import Mathlib.Data.List.Forall2
import JsonSql.Layout

/-!
# Spellings of a structure

A structure may be written as an object or as a list.  In an object every field
has one entry under one of its names, in any order and among entries with other
names, and a field with its default may be left out; in a list the last fields
may be.  A layout whose slots fit the fields reads each spelling as the structure.
-/

namespace JsonSql

/-- A field with the names it goes by, the values that stand for it, and whether it
may be left out. -/
structure SpelledField where
  names : List String
  Spells : Json → Prop
  MayLack : Prop

inductive SpelledEntries : List SpelledField → Record → Prop
  | nil : SpelledEntries [] []
  | entry {field : SpelledField} {fields : List SpelledField} {key : String}
      {value : Json} {entries : Record} : key ∈ field.names → field.Spells value →
        SpelledEntries fields entries →
        SpelledEntries (field :: fields) ((key, value) :: entries)
  | lacking {field : SpelledField} {fields : List SpelledField} {entries : Record} :
      field.MayLack → SpelledEntries fields entries →
        SpelledEntries (field :: fields) entries

/-- The elements of a list for fields, up to a place behind which all may be left out. -/
inductive SpelledItems : List SpelledField → List Json → Prop
  | lacking {fields : List SpelledField} : (∀ field ∈ fields, field.MayLack) →
      SpelledItems fields []
  | item {field : SpelledField} {fields : List SpelledField} {value : Json}
      {items : List Json} : field.Spells value → SpelledItems fields items →
        SpelledItems (field :: fields) (value :: items)

inductive Spelled (fields : List SpelledField) : Json → Prop
  | object {known unknown entries : Record} : SpelledEntries fields known →
      (∀ entry ∈ unknown, ∀ field ∈ fields, entry.1 ∉ field.names) →
      entries.Perm (known ++ unknown) → Spelled fields (.object entries)
  | array {items : List Json} : SpelledItems fields items → Spelled fields (.array items)

theorem Spelled.of_entries {fields : List SpelledField} {entries : Record}
    (written : SpelledEntries fields entries) : Spelled fields (.object entries) := by
  have same : entries.Perm (entries ++ []) := by simp
  exact .object written (by simp) same

def Unmistakable (fields : List SpelledField) : Prop :=
  fields.Pairwise fun first second => ∀ name ∈ first.names, name ∉ second.names

def Apart (fields : List SpelledField) (first second : String × Json) : Prop :=
  ∀ field ∈ fields, first.1 ∈ field.names → second.1 ∉ field.names

theorem Apart.symm {fields : List SpelledField} {first second : String × Json}
    (apart : Apart fields first second) : Apart fields second first :=
  fun field member inSecond inFirst => apart field member inFirst inSecond

namespace SpelledEntries

variable {fields : List SpelledField} {entries : Record}

theorem field_of_mem (spelled : SpelledEntries fields entries) {entry : String × Json}
    (member : entry ∈ entries) :
    ∃ field ∈ fields, entry.1 ∈ field.names ∧ field.Spells entry.2 := by
  induction spelled with
  | nil => cases member
  | @entry field fields key value entries named stands _ ih =>
      rcases List.mem_cons.mp member with rfl | later
      · exact ⟨field, List.mem_cons_self, named, stands⟩
      · obtain ⟨other, inFields, rest⟩ := ih later
        exact ⟨other, List.mem_cons_of_mem _ inFields, rest⟩
  | lacking _ _ ih =>
      obtain ⟨other, inFields, rest⟩ := ih member
      exact ⟨other, List.mem_cons_of_mem _ inFields, rest⟩

theorem mayLack_or_mem (spelled : SpelledEntries fields entries) {field : SpelledField}
    (member : field ∈ fields) :
    field.MayLack ∨ ∃ entry ∈ entries, entry.1 ∈ field.names := by
  induction spelled with
  | nil => cases member
  | @entry first fields key value entries named _ _ ih =>
      rcases List.mem_cons.mp member with rfl | later
      · exact .inr ⟨(key, value), List.mem_cons_self, named⟩
      · rcases ih later with lacks | ⟨entry, there, name⟩
        · exact .inl lacks
        · exact .inr ⟨entry, List.mem_cons_of_mem _ there, name⟩
  | lacking lacks _ ih =>
      rcases List.mem_cons.mp member with rfl | later
      · exact .inl lacks
      · exact ih later

theorem not_mem_names (spelled : SpelledEntries fields entries) {other : SpelledField}
    (distinct : ∀ field ∈ fields, ∀ name ∈ other.names, name ∉ field.names)
    {entry : String × Json} (member : entry ∈ entries) : entry.1 ∉ other.names := by
  obtain ⟨field, inFields, named, -⟩ := spelled.field_of_mem member
  intro inOther
  exact distinct field inFields _ inOther named

theorem pairwise_cons (spelled : SpelledEntries fields entries) {other : SpelledField}
    (distinct : ∀ field ∈ fields, ∀ name ∈ other.names, name ∉ field.names)
    (apart : entries.Pairwise (Apart fields)) :
    entries.Pairwise (Apart (other :: fields)) := by
  refine apart.imp_of_mem fun {first second} here _ apart => ?_
  intro field member inField
  rcases List.mem_cons.mp member with rfl | later
  · exact absurd inField (spelled.not_mem_names distinct here)
  · exact apart field later inField

theorem pairwise_apart (spelled : SpelledEntries fields entries)
    (distinct : Unmistakable fields) : entries.Pairwise (Apart fields) := by
  induction spelled with
  | nil => exact .nil
  | @entry field fields key value entries named _ rest ih =>
      obtain ⟨head, distinct⟩ := List.pairwise_cons.mp distinct
      refine List.pairwise_cons.mpr ⟨?_, rest.pairwise_cons head (ih distinct)⟩
      intro other later one member inOne
      rcases List.mem_cons.mp member with rfl | inRest
      · exact rest.not_mem_names head later
      · exact absurd inOne (head one inRest key named)
  | lacking _ rest ih =>
      obtain ⟨head, distinct⟩ := List.pairwise_cons.mp distinct
      exact rest.pairwise_cons head (ih distinct)

end SpelledEntries

/-! ## Layouts -/

/-- A slot that takes what a field stands for: filling it keeps what holds of the
draft, and leaves blank every slot that goes by other names. -/
structure Slot.Fits (slots : List (Slot δ)) (Holds : δ → Prop) (slot : Slot δ)
    (field : SpelledField) : Prop where
  names : ∀ key, slot.answersTo key = true ↔ key ∈ field.names
  fill : ∀ value draft, field.Spells value → Holds draft →
    ∃ filled, slot.fill value draft = .ok filled ∧ Holds filled ∧
      slot.isFilled filled = true ∧
      ∀ other ∈ slots,
        (other.isFilled draft = true → other.isFilled filled = true) ∧
        ∀ key, slot.answersTo key = true → other.answersTo key = false →
          other.isFilled filled = other.isFilled draft

/-- A layout for the fields of a structure: its drafts hold parts of the structure, and
one in which only fields are missing that may be left out is finished to it. -/
structure Layout.Suits (layout : Layout δ α) (fields : List SpelledField)
    (Holds : δ → Prop) (target : α) : Prop where
  distinct : Unmistakable fields
  start : Holds layout.start
  blank : ∀ slot ∈ layout.slots, slot.isFilled layout.start = false
  fits : List.Forall₂ (Slot.Fits layout.slots Holds) layout.slots fields
  finish : ∀ absent draft, Holds draft →
    List.Forall₂ (fun slot field => slot.isFilled draft = true ∨ field.MayLack)
      layout.slots fields →
    layout.finish absent draft = .ok target

theorem exists_left_of_forall₂ {R : α → β → Prop} {lefts : List α} {rights : List β}
    (related : List.Forall₂ R lefts rights) {right : β} (member : right ∈ rights) :
    ∃ left ∈ lefts, R left right := by
  induction related with
  | nil => cases member
  | @cons first its lefts rights here _ ih =>
      rcases List.mem_cons.mp member with rfl | later
      · exact ⟨first, List.mem_cons_self, here⟩
      · obtain ⟨left, inLefts, there⟩ := ih later
        exact ⟨left, List.mem_cons_of_mem _ inLefts, there⟩

theorem exists_right_of_forall₂ {R : α → β → Prop} {lefts : List α} {rights : List β}
    (related : List.Forall₂ R lefts rights) {left : α} (member : left ∈ lefts) :
    ∃ right ∈ rights, R left right :=
  exists_left_of_forall₂ related.flip member

section

variable {all slots : List (Slot δ)} {fields : List SpelledField} {Holds : δ → Prop}

theorem find?_answersTo_eq_some (fits : List.Forall₂ (Slot.Fits all Holds) slots fields)
    (distinct : Unmistakable fields) {slot : Slot δ} (member : slot ∈ slots) {key : String}
    (answers : slot.answersTo key = true) :
    slots.find? (·.answersTo key) = some slot := by
  induction fits with
  | nil => cases member
  | @cons first its slots fields fit fits ih =>
      obtain ⟨head, distinct⟩ := List.pairwise_cons.mp distinct
      rw [List.find?_cons]
      rcases List.mem_cons.mp member with rfl | later
      · rw [answers]
      · have silent : first.answersTo key = false := by
          rw [Bool.eq_false_iff]
          intro firstAnswers
          obtain ⟨field, inFields, fitting⟩ := exists_right_of_forall₂ fits later
          exact head field inFields key ((fit.names key).mp firstAnswers)
            ((fitting.names key).mp answers)
        rw [silent]
        exact ih distinct later

theorem find?_answersTo_eq_none (fits : List.Forall₂ (Slot.Fits all Holds) slots fields)
    {key : String} (unknown : ∀ field ∈ fields, key ∉ field.names) :
    slots.find? (·.answersTo key) = none := by
  refine List.find?_eq_none.mpr ?_
  intro slot member answers
  obtain ⟨field, inFields, fit⟩ := exists_right_of_forall₂ fits member
  exact unknown field inFields ((fit.names key).mp answers)

theorem fillByKey_of_unknown (fits : List.Forall₂ (Slot.Fits slots Holds) slots fields)
    {key : String} (unknown : ∀ field ∈ fields, key ∉ field.names) (value : Json)
    (draft : δ) (entries : Record) :
    fillByKey slots draft ((key, value) :: entries) = fillByKey slots draft entries := by
  rw [fillByKey, find?_answersTo_eq_none fits unknown]

theorem fillByKey_of_known (fits : List.Forall₂ (Slot.Fits slots Holds) slots fields)
    (distinct : Unmistakable fields) {field : SpelledField} (inFields : field ∈ fields)
    {key : String} (named : key ∈ field.names) {value : Json} (spelled : field.Spells value)
    {draft : δ} (holds : Holds draft)
    (blank : ∀ slot ∈ slots, slot.answersTo key = true → slot.isFilled draft = false) :
    ∃ next, (∀ entries, fillByKey slots draft ((key, value) :: entries) =
        fillByKey slots next entries) ∧ Holds next ∧
      ∀ slot ∈ slots, (slot.isFilled draft = true → slot.isFilled next = true) ∧
        (slot.answersTo key = true → slot.isFilled next = true) ∧
        (slot.answersTo key = false → slot.isFilled next = slot.isFilled draft) := by
  obtain ⟨slot, inSlots, fit⟩ := exists_left_of_forall₂ fits inFields
  have answers := (fit.names key).mpr named
  have found := find?_answersTo_eq_some fits distinct inSlots answers
  have free := blank slot inSlots answers
  obtain ⟨next, filling, holdsNext, done, frame⟩ := fit.fill value draft spelled holds
  refine ⟨next, ?_, holdsNext, ?_⟩
  · intro entries
    rw [fillByKey, found]
    simp only [free, filling]
    rfl
  · intro other member
    refine ⟨(frame other member).1, ?_, (frame other member).2 key answers⟩
    intro otherAnswers
    have same : some slot = some other :=
      found.symm.trans (find?_answersTo_eq_some fits distinct member otherAnswers)
    rw [← Option.some.inj same]
    exact done

theorem fillByKey_of_spelled (fits : List.Forall₂ (Slot.Fits slots Holds) slots fields)
    (distinct : Unmistakable fields) {entries : Record} {draft : δ} (holds : Holds draft)
    (stands : ∀ entry ∈ entries, (∀ field ∈ fields, entry.1 ∉ field.names) ∨
      ∃ field ∈ fields, entry.1 ∈ field.names ∧ field.Spells entry.2)
    (apart : entries.Pairwise (Apart fields))
    (blank : ∀ entry ∈ entries, ∀ slot ∈ slots,
      slot.answersTo entry.1 = true → slot.isFilled draft = false) :
    ∃ filled, fillByKey slots draft entries = .ok filled ∧ Holds filled ∧
      ∀ slot ∈ slots, (slot.isFilled draft = true ∨
        ∃ entry ∈ entries, slot.answersTo entry.1 = true) →
          slot.isFilled filled = true := by
  -- The slots that the remaining entries answer are blank in every draft on the way.
  induction entries generalizing draft with
  | nil => exact ⟨draft, rfl, holds, by simp⟩
  | cons entry entries ih =>
      obtain ⟨key, value⟩ := entry
      obtain ⟨head, apart⟩ := List.pairwise_cons.mp apart
      obtain ⟨here, later⟩ := List.forall_mem_cons.mp stands
      obtain ⟨blankHere, blankLater⟩ := List.forall_mem_cons.mp blank
      rcases here with unknown | ⟨field, inFields, named, spelled⟩
      · obtain ⟨filled, read, holds, full⟩ := ih holds later apart blankLater
        have skips := fillByKey_of_unknown fits unknown value draft entries
        refine ⟨filled, skips.trans read, holds, ?_⟩
        intro slot member given
        apply full slot member
        rcases given with before | ⟨entry, there, answers⟩
        · exact .inl before
        · rcases List.mem_cons.mp there with rfl | there
          · have none := find?_answersTo_eq_none fits unknown
            exact absurd answers (List.find?_eq_none.mp none slot member)
          · exact .inr ⟨entry, there, answers⟩
      · obtain ⟨next, step, holdsNext, changes⟩ :=
          fillByKey_of_known fits distinct inFields named spelled holds blankHere
        have stillBlank : ∀ entry ∈ entries, ∀ slot ∈ slots,
            slot.answersTo entry.1 = true → slot.isFilled next = false := by
          intro entry there slot member answers
          have silent : slot.answersTo key = false := by
            obtain ⟨its, inFields, fit⟩ := exists_right_of_forall₂ fits member
            rw [Bool.eq_false_iff]
            intro both
            exact head entry there its inFields ((fit.names key).mp both)
              ((fit.names entry.1).mp answers)
          rw [(changes slot member).2.2 silent]
          exact blankLater entry there slot member answers
        obtain ⟨filled, read, holdsFilled, full⟩ := ih holdsNext later apart stillBlank
        refine ⟨filled, (step entries).trans read, holdsFilled, ?_⟩
        intro slot member given
        apply full slot member
        rcases given with before | ⟨entry, there, answers⟩
        · exact .inl ((changes slot member).1 before)
        · rcases List.mem_cons.mp there with rfl | there
          · exact .inl ((changes slot member).2.1 answers)
          · exact .inr ⟨entry, there, answers⟩

theorem filled_or_mayLack (fits : List.Forall₂ (Slot.Fits all Holds) slots fields) (draft : δ)
    (given : ∀ slot ∈ slots, ∀ field ∈ fields, slot.Fits all Holds field →
      slot.isFilled draft = true ∨ field.MayLack) :
    List.Forall₂ (fun slot field => slot.isFilled draft = true ∨ field.MayLack)
      slots fields := by
  induction fits with
  | nil => exact .nil
  | cons fit _ ih =>
      refine .cons (given _ List.mem_cons_self _ List.mem_cons_self fit) (ih ?_)
      intro slot inSlots field inFields
      exact given slot (List.mem_cons_of_mem _ inSlots) field
        (List.mem_cons_of_mem _ inFields)

theorem fillInOrder_of_spelled {items : List Json}
    (fits : List.Forall₂ (Slot.Fits all Holds) slots fields) (inside : slots ⊆ all)
    (spelled : SpelledItems fields items) (length : Nat) {draft : δ} (holds : Holds draft) :
    ∃ filled, fillInOrder length slots draft items = .ok filled ∧ Holds filled ∧
      (∀ slot ∈ all, slot.isFilled draft = true → slot.isFilled filled = true) ∧
      List.Forall₂ (fun slot field => slot.isFilled filled = true ∨ field.MayLack)
        slots fields := by
  induction spelled generalizing slots draft with
  | lacking mayLack =>
      have full := filled_or_mayLack fits draft
        fun _ _ field member _ => .inr (mayLack field member)
      exact ⟨draft, by rw [fillInOrder], holds, fun _ _ before => before, full⟩
  | @item field fields value items stands _ ih =>
      cases fits with
      | @cons slot _ slots _ fit fits =>
          obtain ⟨next, filling, holdsNext, done, frame⟩ := fit.fill value draft stands holds
          have rest : slots ⊆ all := fun _ member => inside (List.mem_cons_of_mem _ member)
          obtain ⟨filled, read, holdsFilled, kept, full⟩ := ih fits rest holdsNext
          refine ⟨filled, ?_, holdsFilled, ?_, ?_⟩
          · rw [fillInOrder, filling]
            exact read
          · intro other member before
            exact kept other member ((frame other member).1 before)
          · exact .cons (.inl (kept slot (inside List.mem_cons_self) done)) full

end

theorem Layout.Suits.read_of_spelled {layout : Layout δ α} {fields : List SpelledField}
    {Holds : δ → Prop} {target : α} (suits : layout.Suits fields Holds target)
    {value : Json} (spelled : Spelled fields value) : layout.read value = .ok target := by
  cases spelled with
  | @object known unknown entries written others same =>
      have stands : ∀ entry ∈ known ++ unknown,
          (∀ field ∈ fields, entry.1 ∉ field.names) ∨
          ∃ field ∈ fields, entry.1 ∈ field.names ∧ field.Spells entry.2 := by
        intro entry member
        rcases List.mem_append.mp member with inKnown | inUnknown
        · exact .inr (written.field_of_mem inKnown)
        · exact .inl (others entry inUnknown)
      have apart : (known ++ unknown).Pairwise (Apart fields) := by
        have unknownApart : unknown.Pairwise (Apart fields) :=
          List.pairwise_of_forall_mem_list fun first there _ _ field member named =>
            absurd named (others first there field member)
        refine List.pairwise_append.mpr
          ⟨written.pairwise_apart suits.distinct, unknownApart, ?_⟩
        intro _ _ second there field member _
        exact others second there field member
      obtain ⟨filled, filling, holds, full⟩ := fillByKey_of_spelled suits.fits suits.distinct
        suits.start (fun entry member => stands entry (same.mem_iff.mp member))
        ((same.pairwise_iff Apart.symm).mpr apart)
        (fun entry _ slot member _ => suits.blank slot member)
      have complete := filled_or_mayLack suits.fits filled
        fun slot inSlots field inFields fit => by
          rcases written.mayLack_or_mem inFields with lacks | ⟨entry, there, named⟩
          · exact .inr lacks
          · have inEntries := same.mem_iff.mpr (List.mem_append_left unknown there)
            exact .inl (full slot inSlots
              (.inr ⟨entry, inEntries, (fit.names entry.1).mpr named⟩))
      calc layout.read (.object entries)
          = layout.finish .missing filled := by rw [Layout.read, filling]; rfl
        _ = .ok target := suits.finish _ filled holds complete
  | @array items written =>
      obtain ⟨filled, filling, holds, -, complete⟩ := fillInOrder_of_spelled suits.fits
        (fun _ member => member) written items.length suits.start
      calc layout.read (.array items)
          = layout.finish (fun _ => .wrongLength items.length layout.fullText) filled := by
            rw [Layout.read, filling]; rfl
        _ = .ok target := suits.finish _ filled holds complete

end JsonSql
