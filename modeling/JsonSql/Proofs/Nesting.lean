import JsonSql.Filter.Where

/-!
# Nesting of filters

A depth that is a machine word wraps around behind the last one.  While the word and
the levels below it stay in range, nothing wraps, and a filter compiles as if its
depths were counted without a bound.
-/

namespace JsonSql.Filter

open DepthCounter

mutual

/-- How many steps down the depths of a filter go, if an object lies `fieldsSteps` and
a group `groupSteps` below the depth that they are counted from. -/
def steps (fieldsSteps groupSteps : Nat) : Filter → Nat
  | .condition .. => 0
  | .fields entries => fieldsSteps + allSteps 1 0 entries
  | .group _ children => groupSteps + allSteps 1 1 children
  | .raw _ => 0

def allSteps (fieldsSteps groupSteps : Nat) : List Filter → Nat
  | [] => 0
  | filter :: filters =>
      max (filter.steps fieldsSteps groupSteps) (allSteps fieldsSteps groupSteps filters)

end

def groupNesting (children : List Filter) : Nat := allSteps 1 1 children

def fieldsNesting (entries : List Filter) : Nat := allSteps 1 0 entries

theorem steps_le_allSteps (fieldsSteps groupSteps : Nat) {filter : Filter}
    {filters : List Filter} (member : filter ∈ filters) :
    filter.steps fieldsSteps groupSteps ≤ allSteps fieldsSteps groupSteps filters := by
  induction filters with
  | nil => cases member
  | cons first filters ih =>
      rw [allSteps]
      rcases List.mem_cons.mp member with rfl | later
      · exact Nat.le_max_left _ _
      · exact Nat.le_trans (ih later) (Nat.le_max_right _ _)

theorem toNat_add_one {word : UInt64} {depth : Nat} (same : word.toNat = depth)
    (room : depth + 1 < UInt64.size) : (word + 1).toNat = depth + 1 := by
  rw [UInt64.toNat_add, same]
  exact Nat.mod_eq_of_lt room

/-- The words stand for the depths, as far as a filter is compiled at them, and no
level of the filter is behind the last word. -/
def Counted (fieldsWord groupWord : UInt64) (fieldsDepth groupDepth : Nat) : Filter → Prop
  | .fields entries =>
      fieldsWord.toNat = fieldsDepth ∧ fieldsDepth + fieldsNesting entries < UInt64.size
  | .group _ children =>
      groupWord.toNat = groupDepth ∧ groupDepth + groupNesting children < UInt64.size
  | _ => True

theorem counted_entries {word : UInt64} {depth : Nat} {entries : List Filter}
    (same : word.toNat = depth) (room : depth + fieldsNesting entries < UInt64.size) :
    ∀ entry ∈ entries, Counted (word + 1) word (depth + 1) depth entry := by
  intro entry member
  have within : entry.steps 1 0 ≤ fieldsNesting entries := steps_le_allSteps 1 0 member
  cases entry with
  | fields inner =>
      rw [steps] at within
      exact ⟨toNat_add_one same (by omega), by rw [fieldsNesting]; omega⟩
  | group combinator children =>
      rw [steps] at within
      exact ⟨same, by rw [groupNesting]; omega⟩
  | _ => trivial

theorem counted_children {word : UInt64} {depth : Nat} {children : List Filter}
    (same : word.toNat = depth) (room : depth + groupNesting children < UInt64.size) :
    ∀ child ∈ children, Counted (word + 1) (word + 1) (depth + 1) (depth + 1) child := by
  intro child member
  have within : child.steps 1 1 ≤ groupNesting children := steps_le_allSteps 1 1 member
  cases child with
  | fields entries =>
      rw [steps] at within
      exact ⟨toNat_add_one same (by omega), by rw [fieldsNesting]; omega⟩
  | group combinator inner =>
      rw [steps] at within
      exact ⟨toNat_add_one same (by omega), by rw [groupNesting]; omega⟩
  | _ => trivial

-- A word may wrap where no part of the filter looks at it, so the words are compared
-- with the naturals part by part.
mutual

theorem fragments_counted {fieldsWord groupWord : UInt64} {fieldsDepth groupDepth : Nat} :
    (filter : Filter) → Counted fieldsWord groupWord fieldsDepth groupDepth filter →
      fragments fieldsWord groupWord filter = fragments fieldsDepth groupDepth filter
  | .condition .., _ => rfl
  | .fields entries, ⟨same, room⟩ => by
      have inner := allFragments_counted entries (counted_entries same room)
      rw [fragments, fragments, deeper_word, inner, level_word, same]
      rfl
  | .group combinator children, ⟨same, room⟩ => by
      have inner := allFragments_counted children (counted_children same room)
      rw [fragments, fragments, deeper_word, inner, level_word, same]
      rfl
  | .raw _, _ => rfl

theorem allFragments_counted {fieldsWord groupWord : UInt64} {fieldsDepth groupDepth : Nat} :
    (filters : List Filter) →
      (∀ filter ∈ filters, Counted fieldsWord groupWord fieldsDepth groupDepth filter) →
        allFragments fieldsWord groupWord filters =
          allFragments fieldsDepth groupDepth filters
  | [], _ => rfl
  | filter :: filters, counted => by
      obtain ⟨first, rest⟩ := List.forall_mem_cons.mp counted
      rw [allFragments, allFragments, fragments_counted filter first,
        allFragments_counted filters rest]

end

theorem groupText_toNat (depth : UInt64) {children : List Filter}
    (room : depth.toNat + groupNesting children < UInt64.size) (combinator : Combinator) :
    groupText depth combinator children = groupText depth.toNat combinator children := by
  rw [groupText, groupText, deeper_word, allFragments_counted children
    (counted_children rfl room)]
  rfl

theorem fieldsTexts_toNat (depth : UInt64) {entries : List Filter}
    (room : depth.toNat + fieldsNesting entries < UInt64.size) :
    fieldsTexts depth entries = fieldsTexts depth.toNat entries := by
  rw [fieldsTexts, fieldsTexts, deeper_word, allFragments_counted entries
    (counted_entries rfl room)]
  rfl

/-- From the root a filter compiles by words as it does without a bound. -/
theorem whereText_by_words :
    (∀ combinator children, 1 + groupNesting children < UInt64.size →
      (Filter.group combinator children).whereText =
        groupText (1 : UInt64) combinator children) ∧
    (∀ entries, 2 + fieldsNesting entries < UInt64.size →
      (Filter.fields entries).whereText = joinWith .and (fieldsTexts (2 : UInt64) entries)) := by
  constructor
  · intro combinator children room
    exact (groupText_toNat 1 room combinator).symm
  · intro entries room
    rw [whereText, fieldsTexts_toNat 2 room]
    rfl

end JsonSql.Filter
