import JsonSql.Proofs.ClauseParts
import JsonSql.Proofs.Meaning

/-!
# Conjunctions of conditions

The elements of a `where` list, and the entries of the objects among them, compile
one by one: the body of a longer list is the bodies of its parts joined by `AND`,
and an object may be cut in two.  So it does not matter whether a condition stands
in `where` or beside it, and a condition that is added leaves the text of the others
as it is.
-/

namespace JsonSql

/-- The body of a WHERE part, for items that must all hold. -/
def bodyText (items : List Json) : String := (Filter.ofList .and items).whereText

def conjoined (first second : String) : String :=
  if first = "" then second
  else if second = "" then first
  else first ++ " AND " ++ second

namespace Formula

theorem texts_eq_nil_iff (row : List Formula) : texts row = [] ↔ row = [] := by
  rw [texts_eq_map, List.map_eq_nil_iff]

theorem rowText_append {first second : List Formula}
    (filled : ∀ text ∈ allAtoms (first ++ second), text ≠ "") :
    rowText (first ++ second) = conjoined (rowText first) (rowText second) := by
  rw [allAtoms_append, List.forall_mem_append] at filled
  simp only [conjoined, rowText_eq_empty_iff first filled.1,
    rowText_eq_empty_iff second filled.2]
  split
  · next noFirst => rw [noFirst, List.nil_append]
  · next someFirst =>
      split
      · next noSecond => rw [noSecond, List.append_nil]
      · next someSecond =>
          rw [rowText, texts_append, String.intercalate_append_of_ne_nil]
          · rfl
          · rwa [Ne, texts_eq_nil_iff]
          · rwa [Ne, texts_eq_nil_iff]

end Formula

def rowOfItems (items : List Json) : List Formula := (Filter.ofList .and items).row

theorem bodyText_eq_rowText (items : List Json) :
    bodyText items = Formula.rowText (rowOfItems items) :=
  Filter.whereText_eq_rowText _ rfl

theorem rowOfItems_append (first second : List Json) :
    rowOfItems (first ++ second) = rowOfItems first ++ rowOfItems second := by
  simp [rowOfItems, Filter.ofList, Filter.row]

theorem filled_rowOfItems (items : List Json) :
    ∀ text ∈ Formula.allAtoms (rowOfItems items), text ≠ "" := by
  have conveys := Filter.conveys_row (Filter.ofList .and items)
    (Filter.allRawFree_ofItems items) rfl
  rw [rowOfItems, conveys.atoms, List.forall_mem_map]
  exact fun leaf _ => leaf.text_ne_empty

theorem bodyText_append (first second : List Json) :
    bodyText (first ++ second) = conjoined (bodyText first) (bodyText second) := by
  have filled := filled_rowOfItems (first ++ second)
  rw [rowOfItems_append] at filled
  rw [bodyText_eq_rowText, rowOfItems_append, Formula.rowText_append filled,
    bodyText_eq_rowText, bodyText_eq_rowText]

theorem rowOfItems_object (entries : Record) :
    rowOfItems [.object entries] = Filter.formulas (Filter.ofEntries none entries) := by
  simp [rowOfItems, Filter.ofList, Filter.ofItems, Filter.ofItem?, Filter.row,
    Filter.rowOfMember]

theorem rowOfItems_objects (first second : Record) :
    rowOfItems [.object (first ++ second)] = rowOfItems [.object first, .object second] := by
  have parts : rowOfItems [.object first, .object second] =
      rowOfItems [.object first] ++ rowOfItems [.object second] :=
    rowOfItems_append [.object first] [.object second]
  rw [parts, rowOfItems_object, rowOfItems_object, rowOfItems_object,
    Filter.ofEntries_append, Filter.formulas_append]

theorem bodyText_empty_object : bodyText [.object []] = "" := rfl

theorem bodyText_cut (ahead : List Json) (first second : Record) (behind : List Json) :
    bodyText (ahead ++ .object (first ++ second) :: behind) =
      bodyText (ahead ++ .object first :: .object second :: behind) := by
  have rows (entries : Record) : rowOfItems (ahead ++ .object entries :: behind) =
      rowOfItems ahead ++ (rowOfItems [.object entries] ++ rowOfItems behind) := by
    rw [rowOfItems_append, ← rowOfItems_append [.object entries] behind,
      List.singleton_append]
  have cut : rowOfItems (ahead ++ .object first :: .object second :: behind) =
      rowOfItems ahead ++ (rowOfItems [.object first, .object second] ++ rowOfItems behind) := by
    rw [rowOfItems_append, ← rowOfItems_append [.object first, .object second] behind]
    rfl
  rw [bodyText_eq_rowText, bodyText_eq_rowText, rows, rowOfItems_objects, cut]

theorem bodyText_added (ahead : List Json) (first second : Record)
    (condition : String × Json) (behind : List Json) :
    bodyText (ahead ++ .object (first ++ condition :: second) :: behind) =
      conjoined (conjoined (bodyText (ahead ++ [.object first]))
        (bodyText [.object [condition]])) (bodyText (.object second :: behind)) := by
  have parts : ahead ++ .object first :: .object [condition] :: .object second :: behind =
      (ahead ++ [.object first] ++ [.object [condition]]) ++ .object second :: behind := by
    simp
  have outer := bodyText_cut ahead first ([condition] ++ second) behind
  have inner := bodyText_cut (ahead ++ [.object first]) [condition] second behind
  rw [List.append_assoc, List.append_assoc] at inner
  rw [← bodyText_append, ← bodyText_append, ← parts]
  exact outer.trans inner

/-! ## Conditions inside and outside of `where` -/

namespace Record

theorem get?_append_cons {entry : String × Json} {key : String} (other : entry.1 ≠ key)
    (before after : Record) :
    get? (before ++ entry :: after) key = get? (before ++ after) key := by
  rw [get?_append, get?_append, get?_cons, if_neg other]

theorem get?_append_cons_self {before after : Record} {key : String} {value : Json}
    (distinct : (before ++ (key, value) :: after).keys.Nodup) :
    get? (before ++ (key, value) :: after) key = some value :=
  (get?_eq_some_iff distinct _ _).mpr (by simp)

theorem merged_of_disjoint {record changes : Record}
    (disjoint : ∀ key ∈ record.keys, key ∉ changes.keys) :
    merged record changes = record ++ changes := by
  have kept : overridden record changes = record := by
    have same : overridden record changes = record.map id := by
      apply List.map_congr_left
      intro entry member
      have absent := (get?_eq_none_iff changes entry.1).mpr (disjoint _ (mem_keys_of_mem member))
      simp [absent]
    rw [same, List.map_id]
  have added : without record.keys changes = changes := by
    rw [without, List.filter_eq_self]
    intro entry member
    have fresh : entry.1 ∉ record.keys := fun here =>
      disjoint _ here (mem_keys_of_mem member)
    simp [fresh]
  rw [merged, kept, added]

end Record

namespace Query

def whereList (query : Record) : List Json :=
  match query.get? "where" with
  | some (.array items) => items
  | _ => []

/-- All conditions of a query, with those outside of `where` in an object of their own. -/
def statedItems (query : Record) : List Json :=
  whereList query ++ [.object (conditions query), .object (whereObject query)]

structure IsSeparate (query : Record) : Prop where
  noText : rawWhere? query = none
  distinct : query.keys.Nodup
  distinctWhere : (whereObject query).keys.Nodup
  disjoint : ∀ key ∈ (conditions query).keys, key ∉ (whereObject query).keys

/-- One condition more, outside of `where`, in the object there or in an object of the
list there. -/
inductive AddsCondition (condition : String × Json) : Record → Record → Prop
  | outside (before after : Record) : condition.1 ∉ reserved →
      AddsCondition condition (before ++ after) (before ++ condition :: after)
  | inObject (before after first second : Record) :
      AddsCondition condition (before ++ ("where", .object (first ++ second)) :: after)
        (before ++ ("where", .object (first ++ condition :: second)) :: after)
  | inList (before after first second : Record) (ahead behind : List Json) :
      AddsCondition condition
        (before ++ ("where", .array (ahead ++ .object (first ++ second) :: behind)) :: after)
        (before ++
          ("where", .array (ahead ++ .object (first ++ condition :: second) :: behind)) :: after)

theorem bodyText_statedItems (query : Record) :
    bodyText (statedItems query) =
      bodyText (whereList query ++ [.object (conditions query ++ whereObject query)]) :=
  (bodyText_cut (whereList query) (conditions query) (whereObject query) []).symm

theorem bodyText_items {query : Record} (separate : IsSeparate query) :
    bodyText (items query) = bodyText (statedItems query) := by
  have distinctConditions : (conditions query).keys.Nodup :=
    Record.nodup_keys_filter separate.distinct _
  have merged := Record.putAll_eq_merged distinctConditions separate.distinctWhere
  rw [Record.merged_of_disjoint separate.disjoint] at merged
  rw [bodyText_statedItems]
  unfold items whereList
  cases given : query.get? "where" with
  | none => simp [whereObject, given]
  | some value =>
      cases value with
      | object changes =>
          simp only [whereObject, given] at merged ⊢
          rw [merged, List.nil_append]
      | array list =>
          have noObject : whereObject query = [] := by simp [whereObject, given]
          rw [noObject, List.append_nil]
          simp only
          -- Without conditions the list stays as it is, and here an empty object follows.
          split
          · next noConditions =>
              rw [List.isEmpty_iff.mp noConditions, bodyText_append, bodyText_empty_object]
              simp [conjoined]
          · rfl
      | _ => simp [whereObject, given]

def whereClause (body : String) : String := if body = "" then "" else " WHERE " ++ body

theorem wherePart_eq_whereClause {query : Record} (noText : rawWhere? query = none) :
    wherePart query = whereClause (bodyText (items query)) := by
  rw [wherePart, Filter.filterOf_eq_ofList noText]
  exact Filter.whereText_ofList .and (items query)

/-- The query with its conditions as a list of two objects under `where`: those from
outside and those from the object there. -/
structure IsListed (query listed : Record) : Prop where
  noConditions : conditions listed = []
  list : listed.get? "where" =
    some (.array [.object (conditions query), .object (whereObject query)])
  others : ∀ key ∈ orderKeys ++ pageKeys, listed.get? key = query.get? key

theorem IsListed.compileClause_eq {query listed : Record} (isListed : IsListed query listed)
    (separate : IsSeparate query) {changes : Record}
    (isObject : query.get? "where" = some (.object changes)) :
    compileClause (.object listed) = compileClause (.object query) := by
  apply compileClause_congr _ isListed.others
  have noText : rawWhere? listed = none := by
    rw [rawWhere?, isListed.list]
  have sameItems : items listed = statedItems query := by
    simp [items, isListed.list, isListed.noConditions, statedItems, whereList, isObject]
  rw [wherePart_eq_whereClause noText, wherePart_eq_whereClause separate.noText, sameItems,
    bodyText_items separate]

/-! ## Adding a condition -/

namespace AddsCondition

variable {condition : String × Json} {query added : Record}

theorem get?_eq (adds : AddsCondition condition query added) {key : String}
    (other : key ∈ orderKeys ++ pageKeys) : added.get? key = query.get? key := by
  have notWhere : "where" ≠ key := by
    rintro rfl
    revert other
    decide
  cases adds with
  | outside before after unreserved =>
      have different : condition.1 ≠ key := by
        intro same
        rw [same, reserved_eq] at unreserved
        exact unreserved (List.mem_append_left _ other)
      exact Record.get?_append_cons different before after
  | inObject before after =>
      rw [Record.get?_append_cons notWhere, Record.get?_append_cons notWhere]
  | inList before after =>
      rw [Record.get?_append_cons notWhere, Record.get?_append_cons notWhere]

theorem conditions_append_where (before after : Record) (value : Json) :
    conditions (before ++ ("where", value) :: after) = conditions (before ++ after) := by
  have none : conditions [("where", value)] = [] := by simp [conditions, reserved]
  rw [conditions_append, conditions_append, ← List.singleton_append (x := ("where", value)),
    conditions_append, none, List.nil_append]

theorem statedItems_eq (adds : AddsCondition condition query added)
    (distinct : query.keys.Nodup) (distinctAdded : added.keys.Nodup) :
    ∃ ahead first second behind,
      statedItems query = ahead ++ .object (first ++ second) :: behind ∧
      statedItems added = ahead ++ .object (first ++ condition :: second) :: behind := by
  cases adds with
  | outside before after unreserved =>
      have sameWhere : Record.get? (before ++ condition :: after) "where" =
          Record.get? (before ++ after) "where" := by
        apply Record.get?_append_cons
        intro same
        rw [same] at unreserved
        exact unreserved (by simp [reserved])
      have kept : conditions (before ++ condition :: after) =
          conditions before ++ condition :: conditions after := by
        simp [conditions, unreserved]
      refine ⟨whereList (before ++ after), conditions before, conditions after,
        [.object (whereObject (before ++ after))], ?_, ?_⟩
      · rw [statedItems, conditions_append]
      · simp only [statedItems, whereList, whereObject, sameWhere, kept]
  | inObject before after first second =>
      have given := Record.get?_append_cons_self distinct
      have givenAdded := Record.get?_append_cons_self distinctAdded
      refine ⟨[.object (conditions (before ++ after))], first, second, [], ?_, ?_⟩
      · simp [statedItems, whereList, whereObject, given, conditions_append_where]
      · simp [statedItems, whereList, whereObject, givenAdded, conditions_append_where]
  | inList before after first second ahead behind =>
      have given := Record.get?_append_cons_self distinct
      have givenAdded := Record.get?_append_cons_self distinctAdded
      refine ⟨ahead, first, second,
        behind ++ [.object (conditions (before ++ after)), .object []], ?_, ?_⟩
      · simp [statedItems, whereList, whereObject, given, conditions_append_where]
      · simp [statedItems, whereList, whereObject, givenAdded, conditions_append_where]

end AddsCondition

/-- The text of the new condition stands between those of the conditions before and
behind it. -/
structure AddsText (condition : String × Json) (query added : Record)
    (ahead : List Json) (first second : Record) (behind : List Json) : Prop where
  items : statedItems query = ahead ++ .object (first ++ second) :: behind
  text : compileClause (.object query) =
    whereClause (conjoined (bodyText (ahead ++ [.object first]))
      (bodyText (.object second :: behind))) ++ (orderPart query ++ pagePart query)
  textAdded : compileClause (.object added) =
    whereClause (conjoined (conjoined (bodyText (ahead ++ [.object first]))
        (bodyText [.object [condition]])) (bodyText (.object second :: behind))) ++
      (orderPart query ++ pagePart query)

theorem AddsCondition.addsText {condition : String × Json} {query added : Record}
    (adds : AddsCondition condition query added) (separate : IsSeparate query)
    (separateAdded : IsSeparate added) :
    ∃ ahead first second behind,
      AddsText condition query added ahead first second behind := by
  obtain ⟨ahead, first, second, behind, stated, statedAdded⟩ :=
    adds.statedItems_eq separate.distinct separateAdded.distinct
  have sameOrder : orderPart added = orderPart query :=
    orderPart_congr fun key member => adds.get?_eq (List.mem_append_left _ member)
  have samePage : pagePart added = pagePart query :=
    pagePart_congr fun key member => adds.get?_eq (List.mem_append_right _ member)
  refine ⟨ahead, first, second, behind, stated, ?_, ?_⟩
  · rw [compileClause_eq_parts, wherePart_eq_whereClause separate.noText,
      bodyText_items separate, stated, bodyText_cut, List.append_cons, bodyText_append,
      String.append_assoc]
  · rw [compileClause_eq_parts, wherePart_eq_whereClause separateAdded.noText,
      bodyText_items separateAdded, statedAdded, bodyText_added, sameOrder, samePage,
      String.append_assoc]

/-- Conditions compose by `AND`.  The body of two lists of items is the body of the
first, then that of the second, and two objects have the body of one object with the
entries of both.  So a query with conditions beside a `where` object has the clause
of the query that lists both objects under `where`, and a condition that is added to
a query, wherever it stands, adds its own text and leaves what stands before and
behind it as it is. -/
theorem conditions_compose :
    (∀ first second : List Json,
      bodyText (first ++ second) = conjoined (bodyText first) (bodyText second)) ∧
    (∀ first second : Record,
      bodyText [.object first, .object second] = bodyText [.object (first ++ second)]) ∧
    (∀ query listed changes : Record, IsSeparate query →
      query.get? "where" = some (.object changes) → IsListed query listed →
        compileClause (.object listed) = compileClause (.object query)) ∧
    ∀ (condition : String × Json) (query added : Record),
      AddsCondition condition query added → IsSeparate query → IsSeparate added →
        ∃ ahead first second behind,
          AddsText condition query added ahead first second behind := by
  refine ⟨bodyText_append, ?_, ?_, ?_⟩
  · intro first second
    exact (bodyText_cut [] first second []).symm
  · intro query listed changes separate isObject isListed
    exact isListed.compileClause_eq separate isObject
  · intro condition query added adds separate separateAdded
    exact adds.addsText separate separateAdded

def besideQuery : Record :=
  [("a", .null), ("limit", .string "b"),
   ("where", .object [("or", .array [.object [("b", .null)], .object [("c", .null)]])])]

def besideQueryListed : Record :=
  [("where", .array [.object [("a", .null)],
    .object [("or", .array [.object [("b", .null)], .object [("c", .null)]])]]),
   ("limit", .string "b")]

def besideQueryAdded : Record :=
  [("a", .null), ("limit", .string "b"),
   ("where", .object [("d", .object [(">", .null), ("<", .null)]),
     ("or", .array [.object [("b", .null)], .object [("c", .null)]])])]

theorem besideQuery_composed :
    IsSeparate besideQuery ∧ IsListed besideQuery besideQueryListed ∧
      compileClause (.object besideQueryListed) = compileClause (.object besideQuery) ∧
      AddsCondition ("d", .object [(">", .null), ("<", .null)]) besideQuery besideQueryAdded ∧
      IsSeparate besideQueryAdded ∧
      (∃ ahead first second behind,
        AddsText ("d", .object [(">", .null), ("<", .null)]) besideQuery besideQueryAdded
          ahead first second behind) ∧
      compileClause (.object besideQuery) = " WHERE a = NULL AND (b = NULL OR c = NULL)" ∧
      compileClause (.object besideQueryAdded) =
        " WHERE a = NULL AND (d > NULL AND d < NULL) AND (b = NULL OR c = NULL)" := by
  have separate : IsSeparate besideQuery := ⟨rfl, by decide, by decide, by decide⟩
  have separateAdded : IsSeparate besideQueryAdded := ⟨rfl, by decide, by decide, by decide⟩
  have isListed : IsListed besideQuery besideQueryListed := by
    refine ⟨rfl, rfl, ?_⟩
    simp only [orderKeys, pageKeys, List.cons_append, List.nil_append, List.forall_mem_cons]
    exact ⟨rfl, rfl, rfl, rfl, rfl, rfl, by simp⟩
  have adds : AddsCondition ("d", .object [(">", .null), ("<", .null)]) besideQuery
      besideQueryAdded := .inObject [("a", .null), ("limit", .string "b")] [] [] _
  exact ⟨separate, isListed, conditions_compose.2.2.1 _ _ _ separate rfl isListed, adds,
    separateAdded, conditions_compose.2.2.2 _ _ _ adds separate separateAdded, by decide,
    by decide⟩

end Query

end JsonSql
