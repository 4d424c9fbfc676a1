import JsonSql.Proofs.Leaves
import JsonSql.Proofs.Nesting
import JsonSql.Query

/-!
# Meaning of compiled filters

A filter below the outermost level compiles to the text of one formula, at any
depth, and an outermost filter to a row of formulas.  These formulas have the
leaves of the filter for atoms and its value under every truth assignment.
-/

namespace JsonSql.Filter

open DepthCounter

mutual

def formula? : Filter → Option Formula
  | .condition field operator operand => some (.atom (conditionText field operator operand))
  | .fields entries => Formula.bundle? .and (formulas entries)
  | .group combinator children => Formula.bundle? combinator (formulas children)
  | .raw text => if text = "" then none else some (.atom text)

def formulas : List Filter → List Formula
  | [] => []
  | filter :: filters => filter.formula?.toList ++ formulas filters

end

theorem formulas_append (first second : List Filter) :
    formulas (first ++ second) = formulas first ++ formulas second := by
  induction first with
  | nil => rfl
  | cons filter first ih => rw [List.cons_append, formulas, formulas, ih, List.append_assoc]

/-- The formulas that a member of the outermost group adds to the row: each
entry of an object stands by itself there. -/
def rowOfMember : Filter → List Formula
  | .fields entries => formulas entries
  | filter => filter.formula?.toList

def row : Filter → List Formula
  | .group .and children => children.flatMap rowOfMember
  | filter => rowOfMember filter

/-! ## Fragments as texts of formulas -/

@[simp] theorem nonempty_append (first second : List String) :
    nonempty (first ++ second) = nonempty first ++ nonempty second := by
  simp [nonempty]

@[simp] theorem nonempty_nonempty (fragments : List String) :
    nonempty (nonempty fragments) = nonempty fragments := by
  simp [nonempty]

theorem joinWith_eq (combinator : Combinator) (fragments : List String) :
    joinWith combinator fragments = combinator.separator.intercalate fragments := by
  cases combinator <;> rfl

theorem nonempty_joinGroup (combinator : Combinator) {depth : Nat} (deep : 1 < depth)
    (fragments : List String) (row : List Formula)
    (texts : nonempty fragments = Formula.texts row) :
    nonempty [joinGroup combinator depth fragments] =
      Formula.texts (Formula.bundle? combinator row).toList := by
  rw [joinGroup, texts]
  rcases row with _ | ⟨first, _ | ⟨second, rest⟩⟩
  · simp [Formula.texts, Formula.bundle?, joinWith, nonempty]
  · have kept : nonempty (nonempty fragments) = [first.text] := by
      rw [nonempty_nonempty, texts, Formula.texts, Formula.texts]
    simpa [Formula.texts, Formula.bundle?, joinWith, texts] using kept
  · simp [Formula.texts, Formula.bundle?, Formula.text, nonempty, deep,
      joinWith_eq, parenthesized]

theorem nonempty_foldFields {depth : Nat} (deep : 2 < depth)
    (fragments : List String) (row : List Formula)
    (texts : nonempty fragments = Formula.texts row) :
    nonempty (foldFields depth fragments) =
      Formula.texts (Formula.bundle? .and row).toList := by
  rw [foldFields, texts]
  rcases row with _ | ⟨first, _ | ⟨second, rest⟩⟩
  · simp [Formula.texts, Formula.bundle?, nonempty]
  · have kept : nonempty (nonempty fragments) = [first.text] := by
      rw [nonempty_nonempty, texts, Formula.texts, Formula.texts]
    simpa [Formula.texts, Formula.bundle?, texts] using kept
  · simp [Formula.texts, Formula.bundle?, Formula.text, nonempty, deep,
      joinWith_eq, parenthesized]

-- Below a place past both thresholds every place is past them, so the bounds carry
-- the induction.
mutual

theorem nonempty_fragments {fieldsDepth groupDepth : Nat}
    (deepFields : 2 < fieldsDepth) (deepGroup : 1 < groupDepth) :
    (filter : Filter) → nonempty (filter.fragments fieldsDepth groupDepth) =
      Formula.texts filter.formula?.toList
  | .condition field operator operand => by
      have kept : conditionText field operator operand ≠ "" :=
        Leaf.text_ne_empty ⟨field, operator, operand⟩
      simpa [fragments, formula?, Formula.texts, Formula.text, nonempty] using kept
  | .fields entries => by
      have inner := nonempty_allFragments (show 2 < fieldsDepth + 1 by omega)
        (show 1 < fieldsDepth by omega) entries
      exact nonempty_foldFields deepFields _ _ inner
  | .group combinator children => by
      have inner := nonempty_allFragments (show 2 < groupDepth + 1 by omega)
        (show 1 < groupDepth + 1 by omega) children
      exact nonempty_joinGroup combinator deepGroup _ _ inner
  | .raw text => by
      by_cases blank : text = "" <;>
        simp [fragments, formula?, Formula.texts, Formula.text, nonempty, blank]

theorem nonempty_allFragments {fieldsDepth groupDepth : Nat}
    (deepFields : 2 < fieldsDepth) (deepGroup : 1 < groupDepth) :
    (filters : List Filter) →
      nonempty (allFragments fieldsDepth groupDepth filters) =
        Formula.texts (formulas filters)
  | [] => rfl
  | filter :: filters => by
      rw [allFragments, formulas, nonempty_append, Formula.texts_append,
        nonempty_fragments deepFields deepGroup filter,
        nonempty_allFragments deepFields deepGroup filters]

end

theorem eq_rowText_of_nonempty {fragment : String} {formula? : Option Formula}
    (texts : nonempty [fragment] = Formula.texts formula?.toList) :
    fragment = Formula.rowText formula?.toList := by
  cases formula? with
  | none => simpa [nonempty, Formula.texts, Formula.rowText] using texts
  | some formula =>
      by_cases blank : fragment = ""
      · simp [nonempty, Formula.texts, blank] at texts
      · simpa [nonempty, Formula.texts, Formula.rowText, blank] using texts

theorem groupText_deep {depth : Nat} (deep : 1 < depth) (combinator : Combinator)
    (children : List Filter) :
    groupText depth combinator children =
      Formula.rowText (formula? (.group combinator children)).toList := by
  have inner := nonempty_allFragments (show 2 < depth + 1 by omega)
    (show 1 < depth + 1 by omega) children
  exact eq_rowText_of_nonempty (nonempty_joinGroup combinator deep _ _ inner)

theorem nonempty_fieldsTexts {Depth : Type} [DepthCounter Depth] (depth : Depth)
    (entries : List Filter) :
    nonempty (fieldsTexts depth entries) = fieldsTexts depth entries := by
  unfold fieldsTexts foldFields
  split
  · simp [nonempty, parenthesized]
  · exact nonempty_nonempty _

theorem fieldsTexts_deep {depth : Nat} (deep : 2 < depth) (entries : List Filter) :
    fieldsTexts depth entries = Formula.texts (formula? (.fields entries)).toList := by
  have inner := nonempty_allFragments (show 2 < depth + 1 by omega)
    (show 1 < depth by omega) entries
  rw [← nonempty_fieldsTexts]
  exact nonempty_foldFields deep _ _ inner

theorem fieldsTexts_two (entries : List Filter) :
    fieldsTexts 2 entries = Formula.texts (formulas entries) := by
  have inner := nonempty_allFragments (show 2 < 3 by decide)
    (show 1 < 2 by decide) entries
  rwa [fieldsTexts, foldFields, level_nat, if_neg (by simp)]

theorem nonempty_fragments_member (filter : Filter) :
    nonempty (filter.fragments 2 2) = Formula.texts (rowOfMember filter) := by
  cases filter with
  | fields entries =>
      change nonempty (fieldsTexts 2 entries) = _
      rw [nonempty_fieldsTexts, fieldsTexts_two, rowOfMember]
  | group combinator children =>
      exact nonempty_joinGroup combinator (by decide) _ _
        (nonempty_allFragments (by decide) (by decide) children)
  | condition field operator operand =>
      exact nonempty_fragments (show 2 < 3 by decide) (show 1 < 2 by decide)
        (.condition field operator operand)
  | raw text =>
      exact nonempty_fragments (show 2 < 3 by decide) (show 1 < 2 by decide)
        (.raw text)

theorem nonempty_allFragments_members (filters : List Filter) :
    nonempty (allFragments 2 2 filters) =
      Formula.texts (filters.flatMap rowOfMember) := by
  induction filters with
  | nil => rfl
  | cons filter filters ih =>
      rw [allFragments, nonempty_append, ih, nonempty_fragments_member,
        List.flatMap_cons, Formula.texts_append]

theorem groupText_one (combinator : Combinator) (children : List Filter) :
    groupText 1 combinator children =
      combinator.separator.intercalate
        (Formula.texts (children.flatMap rowOfMember)) := by
  rw [groupText, joinGroup, level_nat, if_neg (by simp), deeper_nat,
    nonempty_allFragments_members, joinWith_eq]

theorem whereText_eq_rowText (filter : Filter)
    (conjunctive : filter.isDisjunction = false) :
    filter.whereText = Formula.rowText filter.row := by
  cases filter with
  | condition field operator operand =>
      simp [whereText, row, rowOfMember, formula?, Formula.rowText, Formula.texts,
        Formula.text]
  | fields entries =>
      rw [whereText, joinWith_eq, fieldsTexts_two]
      rfl
  | group combinator children =>
      cases combinator with
      | and => exact groupText_one .and children
      | or => simp [isDisjunction] at conjunctive
  | raw text =>
      by_cases blank : text = "" <;>
        simp [whereText, row, rowOfMember, formula?, Formula.rowText, Formula.texts,
          Formula.text, blank]

mutual

theorem allAtoms_formula? : (filter : Filter) → filter.rawFree = true →
    Formula.allAtoms filter.formula?.toList = filter.leaves.map Leaf.text
  | .condition field operator operand, _ => by
      simp [formula?, Formula.allAtoms, Formula.atoms, leaves, Leaf.text]
  | .fields entries, plain => by
      rw [formula?, Formula.allAtoms_bundle?, leaves]
      exact allAtoms_formulas entries plain
  | .group combinator children, plain => by
      rw [formula?, Formula.allAtoms_bundle?, leaves]
      exact allAtoms_formulas children plain
  | .raw _, plain => by simp [rawFree] at plain

theorem allAtoms_formulas : (filters : List Filter) → allRawFree filters = true →
    Formula.allAtoms (formulas filters) = (allLeaves filters).map Leaf.text
  | [], _ => rfl
  | filter :: filters, plain => by
      obtain ⟨plainFirst, plainRest⟩ := allRawFree_cons filter filters |>.mp plain
      rw [formulas, Formula.allAtoms_append, allLeaves, List.map_append,
        allAtoms_formula? filter plainFirst, allAtoms_formulas filters plainRest]

end

mutual

theorem map_value_formula? (truth : Nat → Bool) (start : Nat) :
    (filter : Filter) → filter.rawFree = true →
      filter.formula?.map (Formula.value truth start) = filter.value? truth start
  | .condition .., _ => by simp [formula?, Formula.value, value?]
  | .fields entries, plain => by
      rw [formula?, Formula.map_value_bundle?, value?,
        values_formulas truth start entries plain]
  | .group combinator children, plain => by
      rw [formula?, Formula.map_value_bundle?, value?,
        values_formulas truth start children plain]
  | .raw _, plain => by simp [rawFree] at plain

theorem values_formulas (truth : Nat → Bool) (start : Nat) :
    (filters : List Filter) → allRawFree filters = true →
      Formula.values truth start (formulas filters) = values truth start filters
  | [], _ => rfl
  | filter :: filters, plain => by
      obtain ⟨plainFirst, plainRest⟩ := allRawFree_cons filter filters |>.mp plain
      have count : (Formula.allAtoms filter.formula?.toList).length =
          filter.leaves.length := by
        rw [allAtoms_formula? filter plainFirst, List.length_map]
      rw [formulas, Formula.values_append, values, count,
        values_formulas truth _ filters plainRest,
        ← map_value_formula? truth start filter plainFirst]
      cases filter.formula? <;> simp [Formula.values]

end

theorem allAtoms_rowOfMember (filter : Filter) (plain : filter.rawFree = true) :
    Formula.allAtoms filter.rowOfMember = filter.leaves.map Leaf.text := by
  cases filter with
  | fields entries => exact allAtoms_formulas entries plain
  | _ => exact allAtoms_formula? _ plain

theorem outcome?_rowOfMember (truth : Nat → Bool) (start : Nat) (filter : Filter)
    (plain : filter.rawFree = true) :
    Combinator.and.outcome? (Formula.values truth start filter.rowOfMember) =
      filter.value? truth start := by
  have single : Combinator.and.outcome?
      (Formula.values truth start filter.formula?.toList) =
        filter.formula?.map (Formula.value truth start) := by
    cases filter.formula? <;> simp [Formula.values]
  cases filter with
  | fields entries => rw [rowOfMember, values_formulas truth start entries plain, value?]
  | _ => exact single.trans (map_value_formula? truth start _ plain)

theorem allAtoms_members (filters : List Filter) (plain : allRawFree filters = true) :
    Formula.allAtoms (filters.flatMap rowOfMember) =
      (allLeaves filters).map Leaf.text := by
  induction filters with
  | nil => rfl
  | cons filter filters ih =>
      obtain ⟨plainFirst, plainRest⟩ := allRawFree_cons filter filters |>.mp plain
      rw [List.flatMap_cons, Formula.allAtoms_append, allLeaves, List.map_append,
        ih plainRest, allAtoms_rowOfMember filter plainFirst]

theorem outcome?_members (truth : Nat → Bool) (start : Nat) (filters : List Filter)
    (plain : allRawFree filters = true) :
    Combinator.and.outcome? (Formula.values truth start (filters.flatMap rowOfMember)) =
      Combinator.and.outcome? (values truth start filters) := by
  induction filters generalizing start with
  | nil => rfl
  | cons filter filters ih =>
      obtain ⟨plainFirst, plainRest⟩ := allRawFree_cons filter filters |>.mp plain
      have count : (Formula.allAtoms filter.rowOfMember).length =
          filter.leaves.length := by
        rw [allAtoms_rowOfMember filter plainFirst, List.length_map]
      rw [List.flatMap_cons, Formula.values_append, Combinator.outcome?_and_append,
        outcome?_rowOfMember truth start filter plainFirst, count, ih _ plainRest,
        values, Combinator.outcome?_and_append _ (values truth _ filters),
        Combinator.outcome?_toList]

/-! ## Rows that convey a filter -/

/-- The row has the leaves of the filter for atoms, each once and in their order,
and it has the value of the filter under every truth assignment to them. -/
structure Conveys (filter : Filter) (row : List Formula) : Prop where
  atoms : Formula.allAtoms row = filter.leaves.map Leaf.text
  value : ∀ truth, Formula.rowValue? truth row = filter.value? truth 0

theorem Conveys.rowText_eq_empty_iff {filter : Filter} {row : List Formula}
    (conveys : filter.Conveys row) :
    Formula.rowText row = "" ↔ filter.leaves = [] := by
  have filled : ∀ text ∈ Formula.allAtoms row, text ≠ "" := by
    intro text member
    rw [conveys.atoms] at member
    obtain ⟨leaf, -, rfl⟩ := List.mem_map.mp member
    exact leaf.text_ne_empty
  rw [Formula.rowText_eq_empty_iff row filled, ← Formula.allAtoms_eq_nil_iff,
    conveys.atoms, List.map_eq_nil_iff]

theorem conveys_row (filter : Filter) (plain : filter.rawFree = true)
    (conjunctive : filter.isDisjunction = false) : filter.Conveys filter.row := by
  cases filter with
  | group combinator children =>
      cases combinator with
      | and =>
          exact ⟨allAtoms_members children plain,
            fun truth => outcome?_members truth 0 children plain⟩
      | or => simp [isDisjunction] at conjunctive
  | _ =>
      exact ⟨allAtoms_rowOfMember _ plain,
        fun truth => outcome?_rowOfMember truth 0 _ plain⟩

theorem conveys_formula? (filter : Filter) (plain : filter.rawFree = true) :
    filter.Conveys filter.formula?.toList := by
  refine ⟨allAtoms_formula? filter plain, fun truth => ?_⟩
  rw [← map_value_formula? truth 0 filter plain]
  cases filter.formula? <;> simp [Formula.rowValue?, Formula.values]

theorem conveys_formulas (entries : List Filter) (plain : allRawFree entries = true) :
    (Filter.fields entries).Conveys (formulas entries) :=
  ⟨allAtoms_rowOfMember (.fields entries) plain,
    fun truth => outcome?_rowOfMember truth 0 (.fields entries) plain⟩

/-! ## Filters read from JSON -/

mutual

theorem rawFree_ofItem? : (item : Json) → ∀ filter ∈ ofItem? item, filter.rawFree = true
  | .object entries, _, rfl => allRawFree_ofEntries none entries
  | .array items, _, rfl => allRawFree_ofItems items

theorem allRawFree_ofItems : (items : List Json) → allRawFree (ofItems items) = true
  | [] => rfl
  | item :: items => by
      rw [ofItems]
      cases found : ofItem? item with
      | none => exact allRawFree_ofItems items
      | some filter =>
          exact (allRawFree_cons _ _).mpr
            ⟨rawFree_ofItem? item filter found, allRawFree_ofItems items⟩

theorem rawFree_ofEntry (field : Option String) (key : String) :
    (value : Json) → (ofEntry field key value).rawFree = true
  | .object entries => allRawFree_ofEntries (fieldBelow field key) entries
  | .array items => by
      unfold ofEntry
      split
      · exact allRawFree_ofItems items
      · cases field <;> rfl
  | .null | .boolean _ | .number _ | .string _ => by
      unfold ofEntry ofScalar
      split
      · split <;> rfl
      · rfl

theorem allRawFree_ofEntries (field : Option String) :
    (entries : List (String × Json)) → allRawFree (ofEntries field entries) = true
  | [] => rfl
  | (key, value) :: entries =>
      (allRawFree_cons _ _).mpr
        ⟨rawFree_ofEntry field key value, allRawFree_ofEntries field entries⟩

end

theorem filterOf_eq_ofList {query : Record} (noText : Query.rawWhere? query = none) :
    Query.filterOf query = ofList .and (Query.items query) := by
  rw [Query.filterOf, noText]

theorem whereText_ofList (combinator : Combinator) (items : List Json) :
    Query.whereText (some (ofList combinator items)) =
      if (ofList combinator items).whereText = "" then ""
      else " WHERE " ++ (ofList combinator items).whereText := rfl

theorem whereText_conveys (filter : Filter) (plain : filter.rawFree = true)
    (conjunctive : filter.isDisjunction = false) :
    (filter.whereText = "" ↔ filter.leaves = []) ∧
      ∃ row, filter.whereText = Formula.rowText row ∧ filter.Conveys row := by
  have conveys := conveys_row filter plain conjunctive
  rw [whereText_eq_rowText filter conjunctive]
  exact ⟨conveys.rowText_eq_empty_iff, filter.row, rfl, conveys⟩

theorem whereText_filterOf_conveys (query : Record)
    (noText : Query.rawWhere? query = none) :
    ∃ row, (Query.filterOf query).Conveys row ∧
      Query.whereText (some (Query.filterOf query)) =
        if row.isEmpty then "" else " WHERE " ++ Formula.rowText row := by
  have plain : (Query.filterOf query).rawFree = true := by
    rw [filterOf_eq_ofList noText]
    exact allRawFree_ofItems _
  have conjunctive : (Query.filterOf query).isDisjunction = false := by
    rw [filterOf_eq_ofList noText]
    rfl
  have conveys := conveys_row _ plain conjunctive
  have blank : Formula.rowText (Query.filterOf query).row = "" ↔
      (Query.filterOf query).row.isEmpty = true := by
    rw [conveys.rowText_eq_empty_iff, List.isEmpty_iff, ← Formula.allAtoms_eq_nil_iff,
      conveys.atoms, List.map_eq_nil_iff]
  refine ⟨(Query.filterOf query).row, conveys, ?_⟩
  rw [filterOf_eq_ofList noText] at conjunctive blank ⊢
  rw [whereText_ofList, whereText_eq_rowText _ conjunctive]
  simp only [blank]

theorem groupText_conveys {depth : UInt64} (deep : 1 < depth) (combinator : Combinator)
    {children : List Filter} (room : depth.toNat + groupNesting children < UInt64.size)
    (plain : allRawFree children = true) :
    (groupText depth combinator children = "" ↔ allLeaves children = []) ∧
      ∃ formula?, groupText depth combinator children =
          Formula.rowText (Option.toList formula?) ∧
        (Filter.group combinator children).Conveys formula?.toList := by
  have conveys := conveys_formula? (.group combinator children) plain
  rw [groupText_toNat depth room, groupText_deep (UInt64.lt_iff_toNat_lt.mp deep)]
  exact ⟨conveys.rowText_eq_empty_iff, _, rfl, conveys⟩

theorem fieldsTexts_conveys {depth : UInt64} (inner : 1 < depth) {entries : List Filter}
    (room : depth.toNat + fieldsNesting entries < UInt64.size)
    (plain : allRawFree entries = true) :
    ∃ row, fieldsTexts depth entries = Formula.texts row ∧
      (2 < depth → row.length ≤ 1) ∧ (Filter.fields entries).Conveys row := by
  rw [UInt64.lt_iff_toNat_lt] at inner ⊢
  rw [fieldsTexts_toNat depth room]
  by_cases deep : 2 < depth.toNat
  · refine ⟨_, fieldsTexts_deep deep entries, fun _ => ?_, conveys_formula? _ plain⟩
    cases formula? (.fields entries) <;> simp
  · obtain two : depth.toNat = 2 := Nat.le_antisymm (Nat.le_of_not_lt deep) inner
    rw [two]
    exact ⟨_, fieldsTexts_two entries, fun past => absurd past (Nat.lt_irrefl 2),
      conveys_formulas entries plain⟩

/-- Compiling keeps the meaning: what it writes for a filter without raw text, at
the outermost level or deeper, is the text of formulas that have the leaves of
the filter in their order and its value under every truth assignment. -/
theorem compiled_text_conveys_filter :
    (∀ filter : Filter, filter.rawFree = true → filter.isDisjunction = false →
      (filter.whereText = "" ↔ filter.leaves = []) ∧
        ∃ row, filter.whereText = Formula.rowText row ∧ filter.Conveys row) ∧
    (∀ query : Record, Query.rawWhere? query = none →
      ∃ row, (Query.filterOf query).Conveys row ∧
        Query.whereText (some (Query.filterOf query)) =
          if row.isEmpty then "" else " WHERE " ++ Formula.rowText row) ∧
    (∀ (depth : UInt64) combinator children, 1 < depth →
      depth.toNat + groupNesting children < UInt64.size → allRawFree children = true →
      (groupText depth combinator children = "" ↔ allLeaves children = []) ∧
        ∃ formula?, groupText depth combinator children =
            Formula.rowText (Option.toList formula?) ∧
          (Filter.group combinator children).Conveys formula?.toList) ∧
    (∀ (depth : UInt64) entries, 1 < depth →
      depth.toNat + fieldsNesting entries < UInt64.size → allRawFree entries = true →
      ∃ row, fieldsTexts depth entries = Formula.texts row ∧
        (2 < depth → row.length ≤ 1) ∧ (Filter.fields entries).Conveys row) :=
  ⟨whereText_conveys, whereText_filterOf_conveys,
    fun _ combinator _ deep room plain => groupText_conveys deep combinator room plain,
    fun _ _ inner room plain => fieldsTexts_conveys inner room plain⟩

def nestedFilter : Filter :=
  .group .and
    [.fields
      [.fields [.condition "a" "==" (.scalar .null)],
       .group .or
        [.fields
          [.condition "b" ">" (.scalar .null), .condition "c" "in" (.list [])],
         .group .and [],
         .condition "d" "!=" (.scalar (.boolean true))]]]

theorem compiled_text_conveys_nestedFilter :
    nestedFilter.rawFree = true ∧ nestedFilter.isDisjunction = false ∧
      (∃ row, "a = NULL AND ((b > NULL AND 1 = 0) OR d <> true)" = Formula.rowText row ∧
        nestedFilter.Conveys row) ∧
      (18446744073709551612 : UInt64).toNat + groupNesting [nestedFilter] + 1 = UInt64.size ∧
      ∃ formula?, "(a = NULL AND ((b > NULL AND 1 = 0) OR d <> true))" =
          Formula.rowText (Option.toList formula?) ∧
        (Filter.group .or [nestedFilter]).Conveys formula?.toList := by
  have text : nestedFilter.whereText =
      "a = NULL AND ((b > NULL AND 1 = 0) OR d <> true)" := by decide
  have deepText : groupText (18446744073709551612 : UInt64) .or [nestedFilter] =
      "(a = NULL AND ((b > NULL AND 1 = 0) OR d <> true))" := by decide
  obtain ⟨outermost, -, deep, -⟩ := compiled_text_conveys_filter
  have conveyed := (outermost nestedFilter rfl rfl).2
  rw [text] at conveyed
  have deepConveyed := (deep 18446744073709551612 .or [nestedFilter] (by decide)
    (by decide) rfl).2
  rw [deepText] at deepConveyed
  exact ⟨rfl, rfl, conveyed, by decide, deepConveyed⟩

end JsonSql.Filter
