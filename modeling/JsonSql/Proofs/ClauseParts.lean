import JsonSql.Proofs.Records
import JsonSql.Query

/-!
# The parts of a clause

A clause is a WHERE part, an order and a page.  Each of them is read from keys of
its own, so that queries may exchange one without touching the others.  The keys
that are not reserved are a short way to write a `where`: the query that writes
it in full has the same clause.
-/

namespace JsonSql.Record

theorem without_without {listed more : List String} (covered : listed ⊆ more)
    (record : Record) : without more (without listed record) = without more record := by
  rw [without, without, without, List.filter_filter]
  apply List.filter_congr
  intro entry _
  by_cases member : entry.1 ∈ listed
  · simp [member, covered member]
  · simp [member]

/-- The record with the entries under the listed keys replaced by those of another
record, which may stand anywhere. -/
def HasReplaced (listed : List String) (record other replaced : Record) : Prop :=
  without listed replaced = without listed record ∧
    (only listed replaced).Perm (only listed other)

namespace HasReplaced

variable {listed : List String} {record other replaced : Record}

theorem get?_of_not_mem (exchange : HasReplaced listed record other replaced)
    {key : String} (kept : key ∉ listed) : get? replaced key = get? record key := by
  rw [← get?_without kept replaced, exchange.1, get?_without kept record]

theorem get?_of_mem (exchange : HasReplaced listed record other replaced)
    (distinct : other.keys.Nodup) {key : String} (taken : key ∈ listed) :
    get? replaced key = get? other key := by
  have distinct' : (only listed other).keys.Nodup := nodup_keys_filter distinct _
  rw [← get?_only taken replaced, ← get?_only taken other]
  exact (get?_of_perm exchange.2.symm distinct' key).symm

end HasReplaced

end JsonSql.Record

namespace JsonSql.Query

def pageKeys : List String := ["limit", "offset", "skip"]

theorem reserved_eq : reserved = orderKeys ++ pageKeys ++ ["where"] := rfl

theorem not_mem_pageKeys : ∀ key ∈ orderKeys, key ∉ pageKeys := by decide

theorem not_mem_orderKeys : ∀ key ∈ pageKeys, key ∉ orderKeys := by decide

def wherePart (query : Record) : String := whereText (some (filterOf query))

def orderPart (query : Record) : String := orderByText (orderOf query)

def pagePart (query : Record) : String :=
  pageText (numberAt? query "limit")
    ((numberAt? query "skip").or (numberAt? query "offset"))

theorem compileClause_eq_parts (query : Record) :
    compileClause (.object query) =
      wherePart query ++ orderPart query ++ pagePart query := rfl

section

variable {first second : Record}

theorem wherePart_congr (sameWhere : first.get? "where" = second.get? "where")
    (sameConditions : conditions first = conditions second) :
    wherePart first = wherePart second := by
  simp only [wherePart, filterOf, rawWhere?, items, sameWhere, sameConditions]

theorem orderPart_congr (same : ∀ key ∈ orderKeys, first.get? key = second.get? key) :
    orderPart first = orderPart second := by
  have order := same "order" (by simp [orderKeys])
  have orderBy := same "orderBy" (by simp [orderKeys])
  have sort := same "sort" (by simp [orderKeys])
  simp only [orderPart, orderOf, orderKeys, List.findSome?_cons, List.findSome?_nil, order,
    orderBy, sort]

theorem pagePart_congr (same : ∀ key ∈ pageKeys, first.get? key = second.get? key) :
    pagePart first = pagePart second := by
  have limit := same "limit" (by simp [pageKeys])
  have offset := same "offset" (by simp [pageKeys])
  have skip := same "skip" (by simp [pageKeys])
  simp only [pagePart, numberAt?, limit, offset, skip]

theorem compileClause_congr (sameFilter : wherePart first = wherePart second)
    (same : ∀ key ∈ orderKeys ++ pageKeys, first.get? key = second.get? key) :
    compileClause (.object first) = compileClause (.object second) := by
  have sameOrder : orderPart first = orderPart second :=
    orderPart_congr fun key member => same key (List.mem_append_left _ member)
  have samePage : pagePart first = pagePart second :=
    pagePart_congr fun key member => same key (List.mem_append_right _ member)
  rw [compileClause_eq_parts, compileClause_eq_parts, sameFilter, sameOrder, samePage]

end

theorem conditions_append (first second : Record) :
    conditions (first ++ second) = conditions first ++ conditions second :=
  List.filter_append ..

theorem conditions_without {listed : List String} (reservedOnly : listed ⊆ reserved)
    (query : Record) : conditions (query.without listed) = conditions query :=
  Record.without_without reservedOnly query

theorem conditions_only {listed : List String} (reservedOnly : listed ⊆ reserved)
    (query : Record) : conditions (query.only listed) = [] := by
  rw [conditions, List.filter_eq_nil_iff]
  intro entry member
  have chosen := (List.mem_filter.mp member).2
  have inReserved : entry.1 ∈ reserved := reservedOnly (by simpa using chosen)
  simp [inReserved]

@[simp] theorem wherePart_nil : wherePart [] = "" := rfl

@[simp] theorem orderPart_nil : orderPart [] = "" := rfl

@[simp] theorem pagePart_nil : pagePart [] = "" := rfl

theorem wherePart_only {listed : List String} (reservedOnly : listed ⊆ reserved)
    (notWhere : "where" ∉ listed) (query : Record) :
    wherePart (query.only listed) = "" := by
  have noWhere : (query.only listed).get? "where" = Record.get? [] "where" :=
    Record.get?_only_of_not_mem notWhere query
  have noConditions : conditions (query.only listed) = conditions [] :=
    conditions_only reservedOnly query
  rw [wherePart_congr noWhere noConditions, wherePart_nil]

theorem orderPart_eq_empty {query : Record} (none : ∀ key ∈ orderKeys, query.get? key = none) :
    orderPart query = "" := by
  have same : orderPart query = orderPart [] := orderPart_congr none
  rw [same, orderPart_nil]

theorem pagePart_eq_empty {query : Record} (none : ∀ key ∈ pageKeys, query.get? key = none) :
    pagePart query = "" := by
  have same : pagePart query = pagePart [] := pagePart_congr none
  rw [same, pagePart_nil]

theorem clause_only_orderKeys (query : Record) :
    compileClause (.object (query.only orderKeys)) = orderPart query := by
  have order : orderPart (query.only orderKeys) = orderPart query :=
    orderPart_congr fun key member => Record.get?_only member query
  have page : pagePart (query.only orderKeys) = "" :=
    pagePart_eq_empty fun key member =>
      Record.get?_only_of_not_mem (not_mem_orderKeys key member) query
  rw [compileClause_eq_parts, wherePart_only (by decide) (by decide), order, page,
    String.empty_append, String.append_empty]

theorem clause_only_pageKeys (query : Record) :
    compileClause (.object (query.only pageKeys)) = pagePart query := by
  have page : pagePart (query.only pageKeys) = pagePart query :=
    pagePart_congr fun key member => Record.get?_only member query
  have order : orderPart (query.only pageKeys) = "" :=
    orderPart_eq_empty fun key member =>
      Record.get?_only_of_not_mem (not_mem_pageKeys key member) query
  rw [compileClause_eq_parts, wherePart_only (by decide) (by decide), order, page,
    String.empty_append, String.empty_append]

theorem clause_without_order_page (query : Record) :
    compileClause (.object (query.without (orderKeys ++ pageKeys))) = wherePart query := by
  have filter : wherePart (query.without (orderKeys ++ pageKeys)) = wherePart query :=
    wherePart_congr (Record.get?_without (by decide) query)
      (conditions_without (by decide) query)
  have order : orderPart (query.without (orderKeys ++ pageKeys)) = "" :=
    orderPart_eq_empty fun key member =>
      Record.get?_without_of_mem (List.mem_append_left _ member) query
  have page : pagePart (query.without (orderKeys ++ pageKeys)) = "" :=
    pagePart_eq_empty fun key member =>
      Record.get?_without_of_mem (List.mem_append_right _ member) query
  rw [compileClause_eq_parts, filter, order, page, String.append_empty, String.append_empty]

/-! ## Exchanging parts -/

section

variable {query other replaced : Record}

theorem wherePart_of_hasReplaced {listed : List String} (reservedOnly : listed ⊆ reserved)
    (notWhere : "where" ∉ listed) (exchange : query.HasReplaced listed other replaced) :
    wherePart replaced = wherePart query := by
  apply wherePart_congr (exchange.get?_of_not_mem notWhere)
  rw [← conditions_without reservedOnly, exchange.1, conditions_without reservedOnly]

theorem clause_of_replaced_order (distinct : other.keys.Nodup)
    (exchange : query.HasReplaced orderKeys other replaced) :
    compileClause (.object replaced) =
      wherePart query ++ orderPart other ++ pagePart query := by
  have samePage : pagePart replaced = pagePart query :=
    pagePart_congr fun key member => exchange.get?_of_not_mem (not_mem_orderKeys key member)
  have otherOrder : orderPart replaced = orderPart other :=
    orderPart_congr fun key member => exchange.get?_of_mem distinct member
  rw [compileClause_eq_parts, samePage, otherOrder,
    wherePart_of_hasReplaced (by decide) (by decide) exchange]

theorem clause_of_replaced_page (distinct : other.keys.Nodup)
    (exchange : query.HasReplaced pageKeys other replaced) :
    compileClause (.object replaced) =
      wherePart query ++ orderPart query ++ pagePart other := by
  have sameOrder : orderPart replaced = orderPart query :=
    orderPart_congr fun key member => exchange.get?_of_not_mem (not_mem_pageKeys key member)
  have otherPage : pagePart replaced = pagePart other :=
    pagePart_congr fun key member => exchange.get?_of_mem distinct member
  rw [compileClause_eq_parts, sameOrder, otherPage,
    wherePart_of_hasReplaced (by decide) (by decide) exchange]

end

/-! ## Writing `where` in full -/

def whereObject (query : Record) : Record :=
  match query.get? "where" with
  | some (.object changes) => changes
  | _ => []

def fullWhere (query : Record) : Json :=
  match query.get? "where" with
  | some (.array items) =>
      if (conditions query).isEmpty then .array items
      else .array (items ++ [.object (conditions query)])
  | _ => .object ((conditions query).merged (whereObject query))

/-- The query with its order and its page, in whatever order the entries stand, and
with all conditions under `where`. -/
def WritesInFull (query full : Record) : Prop :=
  full.Perm (query.only (orderKeys ++ pageKeys) ++ [("where", fullWhere query)])

def itemsOfWhere : Json → List Json
  | .array items => items
  | value => [value]

section

variable {query full : Record}

theorem nodup_keys_full (distinct : query.keys.Nodup) (value : Json) :
    (query.only (orderKeys ++ pageKeys) ++ [("where", value)]).keys.Nodup := by
  rw [Record.keys_append, List.nodup_append]
  refine ⟨Record.nodup_keys_filter distinct _, by simp, ?_⟩
  intro key here other there same
  obtain ⟨entry, chosen, rfl⟩ := List.mem_map.mp here
  have listed := (List.mem_filter.mp chosen).2
  have isWhere : other = "where" := by simpa using there
  rw [same, isWhere] at listed
  revert listed
  decide

theorem get?_full (distinct : query.keys.Nodup) (written : WritesInFull query full)
    (key : String) :
    full.get? key =
      if key ∈ orderKeys ++ pageKeys then query.get? key
      else if key = "where" then some (fullWhere query) else none := by
  rw [← Record.get?_of_perm written.symm (nodup_keys_full distinct _), Record.get?_append]
  by_cases listed : key ∈ orderKeys ++ pageKeys
  · have different : "where" ≠ key := by
      rintro rfl
      revert listed
      decide
    rw [Record.get?_only listed, if_pos listed, Record.get?_cons, if_neg different,
      Record.get?_nil, Option.or_none]
  · rw [Record.get?_only_of_not_mem listed, if_neg listed, Option.none_or, Record.get?_cons,
      Record.get?_nil]
    simp only [eq_comm]

theorem conditions_full (written : WritesInFull query full) : conditions full = [] := by
  have same : (conditions full).Perm
      (conditions (query.only (orderKeys ++ pageKeys) ++ [("where", fullWhere query)])) :=
    written.filter _
  have noneKept : conditions (query.only (orderKeys ++ pageKeys)) = [] :=
    conditions_only (by decide) query
  have noneAdded : conditions [("where", fullWhere query)] = [] := by
    simp [conditions, reserved]
  rw [conditions_append, noneKept, noneAdded] at same
  exact same.eq_nil

theorem fullWhere_cases (distinct : query.keys.Nodup)
    (distinctWhere : (whereObject query).keys.Nodup) :
    (∃ items, fullWhere query = .array items) ∨
      ∃ entries : Record, fullWhere query = .object entries ∧ entries.keys.Nodup := by
  have distinctConditions : (conditions query).keys.Nodup :=
    Record.nodup_keys_filter distinct _
  unfold fullWhere
  split
  · left
    split
    · exact ⟨_, rfl⟩
    · exact ⟨_, rfl⟩
  · right
    exact ⟨_, rfl, Record.nodup_keys_merged distinctConditions distinctWhere⟩

theorem items_eq_itemsOfWhere (distinct : query.keys.Nodup)
    (distinctWhere : (whereObject query).keys.Nodup) :
    items query = itemsOfWhere (fullWhere query) := by
  have distinctConditions : (conditions query).keys.Nodup :=
    Record.nodup_keys_filter distinct _
  unfold items fullWhere whereObject at *
  cases given : query.get? "where" with
  | none => simp [itemsOfWhere]
  | some value =>
      cases value with
      | array list =>
          simp only
          split <;> rfl
      | object changes =>
          rw [given] at distinctWhere
          have merged := Record.putAll_eq_merged distinctConditions distinctWhere
          simp [itemsOfWhere, merged]
      | _ => simp [itemsOfWhere]

theorem wherePart_full (distinct : query.keys.Nodup)
    (distinctWhere : (whereObject query).keys.Nodup) (noText : rawWhere? query = none)
    (written : WritesInFull query full) : wherePart full = wherePart query := by
  have given : full.get? "where" = some (fullWhere query) := by
    rw [get?_full distinct written]
    rfl
  have noneLeft := conditions_full written
  have sameItems : items full = itemsOfWhere (fullWhere query) := by
    rcases fullWhere_cases distinct distinctWhere with
      ⟨list, isList⟩ | ⟨entries, isObject, distinctEntries⟩
    · rw [isList] at given
      simp [items, given, noneLeft, isList, itemsOfWhere]
    · rw [isObject] at given
      have whole : Record.putAll [] entries = entries := by
        rw [Record.putAll_eq_merged (by simp) distinctEntries, Record.nil_merged]
      simp [items, given, noneLeft, isObject, itemsOfWhere, whole]
  have noTextHere : rawWhere? full = none := by
    rcases fullWhere_cases distinct distinctWhere with ⟨list, isList⟩ | ⟨entries, isObject, -⟩
    · rw [rawWhere?, given, isList]
    · rw [rawWhere?, given, isObject]
  rw [wherePart, wherePart, filterOf, filterOf, noText, noTextHere, sameItems,
    items_eq_itemsOfWhere distinct distinctWhere]

theorem clause_full (distinct : query.keys.Nodup)
    (distinctWhere : (whereObject query).keys.Nodup) (noText : rawWhere? query = none)
    (written : WritesInFull query full) :
    compileClause (.object full) = compileClause (.object query) := by
  apply compileClause_congr (wherePart_full distinct distinctWhere noText written)
  intro key listed
  rw [get?_full distinct written, if_pos listed]

theorem clause_of_text (distinct : query.keys.Nodup) {text : String}
    (isText : rawWhere? query = some text) {rest : Record}
    (same : (query.only reserved).Perm (rest.only reserved)) :
    compileClause (.object rest) = compileClause (.object query) := by
  have kept (key : String) (listed : key ∈ reserved) : rest.get? key = query.get? key := by
    rw [← Record.get?_only listed rest, ← Record.get?_only listed query]
    exact (Record.get?_of_perm same (Record.nodup_keys_filter distinct _) key).symm
  have sameWhere : rest.get? "where" = query.get? "where" := kept _ (by simp [reserved])
  have isTextHere : rawWhere? rest = some text := by
    rw [rawWhere?, sameWhere, ← rawWhere?, isText]
  have sameFilter : wherePart rest = wherePart query := by
    rw [wherePart, wherePart, filterOf, filterOf, isText, isTextHere]
  apply compileClause_congr sameFilter
  intro key listed
  apply kept
  rw [reserved_eq]
  exact List.mem_append_left _ listed

end

/-- Conditions outside `where` are a short way to write it: the query that has all of
them there, with its other entries in any places, has the same clause, and beside a
text they do not count.  A clause is a WHERE part, an order and a page, and each is
the clause of its own entries alone: a query with the order or the page of another
has that part of the other's clause and keeps the rest of its own.  The keys of an
object are distinct. -/
theorem conditions_shorten_where (query : Record) (distinct : query.keys.Nodup)
    (distinctWhere : (whereObject query).keys.Nodup) :
    (rawWhere? query = none → ∀ full, WritesInFull query full →
      compileClause (.object full) = compileClause (.object query)) ∧
    (∀ text, rawWhere? query = some text → ∀ rest : Record,
      (query.only reserved).Perm (rest.only reserved) →
        compileClause (.object rest) = compileClause (.object query)) ∧
    compileClause (.object query) =
      compileClause (.object (query.without (orderKeys ++ pageKeys))) ++
        compileClause (.object (query.only orderKeys)) ++
        compileClause (.object (query.only pageKeys)) ∧
    ∀ other : Record, other.keys.Nodup → ∀ replaced,
      (query.HasReplaced orderKeys other replaced →
        compileClause (.object replaced) =
          compileClause (.object (query.without (orderKeys ++ pageKeys))) ++
            compileClause (.object (other.only orderKeys)) ++
            compileClause (.object (query.only pageKeys))) ∧
      (query.HasReplaced pageKeys other replaced →
        compileClause (.object replaced) =
          compileClause (.object (query.without (orderKeys ++ pageKeys))) ++
            compileClause (.object (query.only orderKeys)) ++
            compileClause (.object (other.only pageKeys))) := by
  simp only [clause_without_order_page, clause_only_orderKeys, clause_only_pageKeys]
  refine ⟨?_, ?_, compileClause_eq_parts query, ?_⟩
  · intro noText full written
    exact clause_full distinct distinctWhere noText written
  · intro text isText rest same
    exact clause_of_text distinct isText same
  · intro other distinctOther replaced
    exact ⟨clause_of_replaced_order distinctOther, clause_of_replaced_page distinctOther⟩

def shortQuery : Record :=
  [("a", .boolean true), ("orderBy", .string "b desc"), ("b", .null),
   ("where", .object [("limit", .string "x"), ("a", .array [.null])])]

def writtenQuery : Record :=
  [("where", .object [("a", .array [.null]), ("b", .null), ("limit", .string "x")]),
   ("orderBy", .string "b desc")]

def sortedQuery : Record := [("limit", .null), ("sort", .string "c")]

def resortedQuery : Record :=
  [("sort", .string "c"), ("a", .boolean true), ("b", .null),
   ("where", .object [("limit", .string "x"), ("a", .array [.null])])]

theorem writtenQuery_same_clause_as_shortQuery :
    (Record.keys shortQuery).Nodup ∧ (whereObject shortQuery).keys.Nodup ∧
      rawWhere? shortQuery = none ∧ WritesInFull shortQuery writtenQuery ∧
      compileClause (.object writtenQuery) = compileClause (.object shortQuery) ∧
      Record.HasReplaced orderKeys shortQuery sortedQuery resortedQuery ∧
      compileClause (.object resortedQuery) =
        compileClause (.object (Record.without (orderKeys ++ pageKeys) shortQuery)) ++
          compileClause (.object (Record.only orderKeys sortedQuery)) ++
          compileClause (.object (Record.only pageKeys shortQuery)) := by
  have distinct : (Record.keys shortQuery).Nodup := by decide
  have distinctWhere : (whereObject shortQuery).keys.Nodup := by decide
  have written : WritesInFull shortQuery writtenQuery := List.Perm.swap _ _ _
  have resorted : Record.HasReplaced orderKeys shortQuery sortedQuery resortedQuery :=
    ⟨rfl, List.Perm.refl _⟩
  have shortened := conditions_shorten_where shortQuery distinct distinctWhere
  exact ⟨distinct, distinctWhere, rfl, written, shortened.1 rfl _ written, resorted,
    (shortened.2.2.2 sortedQuery (by decide) resortedQuery).1 resorted⟩

end JsonSql.Query
