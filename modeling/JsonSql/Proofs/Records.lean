import JsonSql.Json

/-!
# Records by key

A record whose keys are distinct is the same to a reader in any order of its
entries.  Choosing entries by their keys leaves what stands under the keys that
are chosen, and putting the entries of one record into another replaces values
where their keys are and appends the rest.
-/

namespace JsonSql.Record

@[simp] theorem keys_nil : keys [] = [] := rfl

@[simp] theorem keys_cons (entry : String × Json) (record : Record) :
    keys (entry :: record) = entry.1 :: keys record := rfl

@[simp] theorem keys_append (first second : Record) :
    keys (first ++ second) = keys first ++ keys second := List.map_append

theorem mem_keys_of_mem {record : Record} {entry : String × Json}
    (member : entry ∈ record) : entry.1 ∈ record.keys :=
  List.mem_map.mpr ⟨entry, member, rfl⟩

theorem nodup_keys_cons {entry : String × Json} {record : Record} :
    (keys (entry :: record)).Nodup ↔ entry.1 ∉ record.keys ∧ record.keys.Nodup :=
  List.nodup_cons

theorem get?_append (first second : Record) (key : String) :
    get? (first ++ second) key = (get? first key).or (get? second key) := by
  induction first with
  | nil => simp
  | cons entry first ih =>
      rw [List.cons_append, get?_cons, get?_cons, ih]
      split <;> simp

theorem get?_map_pair (keys : List String) (value : Json) (key : String) :
    get? (keys.map (·, value)) key = if key ∈ keys then some value else none := by
  induction keys with
  | nil => simp
  | cons first keys ih =>
      rw [List.map_cons, get?_cons, ih]
      by_cases same : first = key
      · simp [same]
      · simp [same, Ne.symm same]

theorem get?_eq_some_iff {record : Record} (distinct : record.keys.Nodup) (key : String)
    (value : Json) : get? record key = some value ↔ (key, value) ∈ record := by
  induction record with
  | nil => simp
  | cons entry record ih =>
      obtain ⟨fresh, distinct⟩ := nodup_keys_cons.mp distinct
      rw [get?_cons, List.mem_cons]
      by_cases same : entry.1 = key
      · have notLater : (key, value) ∉ record := by
          intro later
          apply fresh
          rw [same]
          exact mem_keys_of_mem later
        simp only [same, if_true, Option.some.injEq, notLater, or_false]
        constructor
        · intro found
          simp [← same, ← found]
        · intro first
          simp [← first]
      · have notFirst : (key, value) ≠ entry := by
          intro first
          apply same
          rw [← first]
        simp only [same, if_false, notFirst, false_or]
        exact ih distinct

theorem get?_of_perm {first second : Record} (same : first.Perm second)
    (distinct : first.keys.Nodup) (key : String) : get? first key = get? second key := by
  have distinct' : second.keys.Nodup := (same.map _).nodup_iff.mp distinct
  apply Option.ext
  intro value
  rw [get?_eq_some_iff distinct, get?_eq_some_iff distinct']
  exact same.mem_iff

def only (listed : List String) (record : Record) : Record :=
  record.filter fun entry => listed.contains entry.1

def without (listed : List String) (record : Record) : Record :=
  record.filter fun entry => !listed.contains entry.1

theorem get?_filter (chosen : String → Bool) (record : Record) (key : String) :
    get? (record.filter fun entry => chosen entry.1) key =
      if chosen key then get? record key else none := by
  induction record with
  | nil => simp
  | cons entry record ih =>
      rw [List.filter_cons, get?_cons]
      by_cases same : entry.1 = key
      · cases kept : chosen key <;> simp [same, kept, ih, get?_cons]
      · cases here : chosen entry.1 <;> simp [same, ih, get?_cons]

theorem get?_only {listed : List String} {key : String} (member : key ∈ listed)
    (record : Record) : get? (only listed record) key = get? record key := by
  rw [only, get?_filter listed.contains, if_pos (List.contains_iff_mem.mpr member)]

theorem get?_only_of_not_mem {listed : List String} {key : String} (other : key ∉ listed)
    (record : Record) : get? (only listed record) key = none := by
  rw [only, get?_filter listed.contains, if_neg (by simpa using other)]

theorem get?_without {listed : List String} {key : String} (other : key ∉ listed)
    (record : Record) : get? (without listed record) key = get? record key := by
  rw [without, get?_filter fun key => !listed.contains key, if_pos (by simpa using other)]

theorem get?_without_of_mem {listed : List String} {key : String} (member : key ∈ listed)
    (record : Record) : get? (without listed record) key = none := by
  rw [without, get?_filter fun key => !listed.contains key, if_neg (by simpa using member)]

theorem nodup_keys_filter {record : Record} (distinct : record.keys.Nodup)
    (chosen : String × Json → Bool) : (keys (record.filter chosen)).Nodup :=
  distinct.sublist (List.filter_sublist.map _)

/-- The entries of a record, with the values of `changes` under equal keys. -/
def overridden (record changes : Record) : Record :=
  record.map fun entry => (entry.1, (get? changes entry.1).getD entry.2)

/-- The overridden entries of a record, then the entries of `changes` whose keys it
does not have. -/
def merged (record changes : Record) : Record :=
  overridden record changes ++ without record.keys changes

@[simp] theorem merged_nil (record : Record) : merged record [] = record := by
  simp [merged, overridden, without]

@[simp] theorem nil_merged (changes : Record) : merged [] changes = changes := by
  simp [merged, overridden, without]

@[simp] theorem keys_overridden (record changes : Record) :
    keys (overridden record changes) = keys record := by
  simp [overridden, keys]

theorem nodup_keys_merged {record changes : Record} (distinct : record.keys.Nodup)
    (distinctChanges : changes.keys.Nodup) : (merged record changes).keys.Nodup := by
  rw [merged, keys_append, keys_overridden, List.nodup_append]
  refine ⟨distinct, nodup_keys_filter distinctChanges _, ?_⟩
  intro key here other there same
  obtain ⟨entry, chosen, rfl⟩ := List.mem_map.mp there
  have absent := (List.mem_filter.mp chosen).2
  rw [← same] at absent
  simp [here] at absent

theorem put_of_not_mem {record : Record} {key : String} (fresh : key ∉ record.keys)
    (value : Json) : put key value record = record ++ [(key, value)] := by
  induction record with
  | nil => rfl
  | cons entry record ih =>
      have different : key ≠ entry.1 := List.ne_of_not_mem_cons fresh
      have later : key ∉ keys record := List.not_mem_of_not_mem_cons fresh
      rw [put, if_neg (Ne.symm different), ih later, List.cons_append]

theorem map_of_not_mem {record : Record} {key : String} (fresh : key ∉ record.keys)
    (value : Json) :
    record.map (fun entry => if entry.1 = key then (key, value) else entry) = record := by
  induction record with
  | nil => rfl
  | cons entry record ih =>
      have different : key ≠ entry.1 := List.ne_of_not_mem_cons fresh
      have later : key ∉ keys record := List.not_mem_of_not_mem_cons fresh
      rw [List.map_cons, ih later, if_neg (Ne.symm different)]

theorem put_of_mem {record : Record} (distinct : record.keys.Nodup) {key : String}
    (member : key ∈ record.keys) (value : Json) :
    put key value record =
      record.map fun entry => if entry.1 = key then (key, value) else entry := by
  induction record with
  | nil => simp at member
  | cons entry record ih =>
      obtain ⟨fresh, distinct⟩ := nodup_keys_cons.mp distinct
      rw [put, List.map_cons]
      by_cases same : entry.1 = key
      · rw [same] at fresh
        rw [if_pos same, if_pos same, map_of_not_mem fresh]
      · have later : key ∈ keys record := by
          rcases List.mem_cons.mp member with first | later
          · exact absurd first.symm same
          · exact later
        rw [if_neg same, if_neg same, ih distinct later]

theorem keys_put_of_mem {record : Record} (distinct : record.keys.Nodup) {key : String}
    (member : key ∈ record.keys) (value : Json) :
    (put key value record).keys = record.keys := by
  rw [put_of_mem distinct member, keys, keys, List.map_map]
  apply List.map_congr_left
  intro entry _
  by_cases same : entry.1 = key <;> simp [same]

theorem overridden_put_of_mem {record : Record} (distinct : record.keys.Nodup)
    {change : String × Json} (member : change.1 ∈ record.keys) {changes : Record}
    (fresh : change.1 ∉ changes.keys) :
    overridden (put change.1 change.2 record) changes =
      overridden record (change :: changes) := by
  have last : get? changes change.1 = none :=
    (get?_eq_none_iff changes change.1).mpr fresh
  rw [put_of_mem distinct member, overridden, overridden, List.map_map]
  apply List.map_congr_left
  intro entry _
  by_cases same : entry.1 = change.1
  · simp [same, last, get?_cons]
  · have different : change.1 ≠ entry.1 := Ne.symm same
    simp [same, different, get?_cons]

theorem overridden_cons_of_not_mem {record : Record} {change : String × Json}
    (absent : change.1 ∉ record.keys) (changes : Record) :
    overridden record (change :: changes) = overridden record changes := by
  apply List.map_congr_left
  intro entry member
  have different : change.1 ≠ entry.1 := by
    intro same
    apply absent
    rw [same]
    exact mem_keys_of_mem member
  rw [get?_cons, if_neg different]

theorem without_append_of_not_mem {changes : Record} {key : String}
    (fresh : key ∉ changes.keys) (listed : List String) :
    without (listed ++ [key]) changes = without listed changes := by
  apply List.filter_congr
  intro entry member
  have different : entry.1 ≠ key := by
    intro same
    apply fresh
    rw [← same]
    exact mem_keys_of_mem member
  simp [different]

theorem putAll_eq_merged {record changes : Record} (distinct : record.keys.Nodup)
    (distinctChanges : changes.keys.Nodup) :
    putAll record changes = merged record changes := by
  induction changes generalizing record with
  | nil =>
      rw [merged_nil]
      rfl
  | cons change changes ih =>
      obtain ⟨fresh, distinctChanges⟩ := nodup_keys_cons.mp distinctChanges
      have step : putAll record (change :: changes) =
          putAll (put change.1 change.2 record) changes := rfl
      by_cases member : change.1 ∈ record.keys
      · have keysHere := keys_put_of_mem distinct member change.2
        have distinctHere : (put change.1 change.2 record).keys.Nodup := by
          rwa [keysHere]
        have dropped : without record.keys (change :: changes) =
            without record.keys changes := by
          simp [without, member]
        rw [step, ih distinctHere distinctChanges, merged, merged,
          overridden_put_of_mem distinct member fresh, keysHere, dropped]
      · -- The new entry stands behind the record, and no later change meets it.
        have last : get? changes change.1 = none :=
          (get?_eq_none_iff changes change.1).mpr fresh
        have distinctHere : (record ++ [change]).keys.Nodup := by
          rw [keys_append, List.nodup_append]
          refine ⟨distinct, by simp, ?_⟩
          intro key here other there same
          have equal : other = change.1 := by simpa using there
          rw [same, equal] at here
          exact member here
        have replaced : overridden (record ++ [change]) changes =
            overridden record changes ++ [change] := by
          simp [overridden, last]
        have kept : without record.keys (change :: changes) =
            change :: without record.keys changes := by
          simp [without, member]
        rw [step, put_of_not_mem member, ih distinctHere distinctChanges, merged, merged,
          replaced, overridden_cons_of_not_mem member, kept, keys_append, keys_cons,
          keys_nil, without_append_of_not_mem fresh, List.append_assoc,
          List.singleton_append]

end JsonSql.Record
