import JsonSql.Proofs.Meaning
import JsonSql.Proofs.Terminals
import JsonSql.Session

/-!
# Statements about all rows

A query that is not SQL text restricts nothing exactly if each of its items is
void: whatever stands in it is scalars between lists, and objects and `and` and
`or` lists that are void in turn.  Then the statement of a request is the one
about all rows, but for its order and its page.
-/

namespace JsonSql

namespace Json

mutual

/-- A group element that holds no condition. -/
def isVoid : Json → Bool
  | .object entries => areVoidEntries entries
  | .array items => areVoid items
  | _ => true

def areVoid : List Json → Bool
  | [] => true
  | item :: items => item.isVoid && areVoid items

def isVoidUnder (key : String) : Json → Bool
  | .object entries => areVoidEntries entries
  | .array items => (Combinator.ofKey? key).isSome && areVoid items
  | _ => false

def areVoidEntries : List (String × Json) → Bool
  | [] => true
  | (key, value) :: entries => value.isVoidUnder key && areVoidEntries entries

end

theorem areVoid_eq_true_iff (items : List Json) :
    areVoid items = true ↔ ∀ item ∈ items, item.isVoid = true := by
  induction items with
  | nil => simp [areVoid]
  | cons item items ih => simp [areVoid, ih]

mutual

theorem elementTerminals_eq_nil_iff (trail : Trail) : (item : Json) →
    (elementTerminals trail item = [] ↔ item.isVoid = true)
  | .object entries => by
      rw [elementTerminals, isVoid]
      exact entriesTerminals_eq_nil_iff trail 0 entries
  | .array items => by
      rw [elementTerminals, isVoid]
      exact itemsTerminals_eq_nil_iff trail 0 items
  | .null | .boolean _ | .number _ | .string _ => by simp [elementTerminals, isVoid]

theorem itemsTerminals_eq_nil_iff (trail : Trail) (place : Nat) : (items : List Json) →
    (itemsTerminals trail place items = [] ↔ areVoid items = true)
  | [] => by simp [itemsTerminals, areVoid]
  | item :: items => by
      rw [itemsTerminals, List.append_eq_nil_iff, areVoid, Bool.and_eq_true,
        elementTerminals_eq_nil_iff _ item, itemsTerminals_eq_nil_iff trail _ items]

theorem entryTerminals_eq_nil_iff (above : Trail) (place : Nat) (key : String) :
    (value : Json) →
      (entryTerminals above place key value = [] ↔ value.isVoidUnder key = true)
  | .object entries => by
      rw [entryTerminals, isVoidUnder]
      exact entriesTerminals_eq_nil_iff _ 0 entries
  | .array items => by
      rw [entryTerminals, isVoidUnder]
      cases Combinator.ofKey? key with
      | none => simp
      | some combinator =>
          simpa using itemsTerminals_eq_nil_iff (.entry place key :: above) 0 items
  | .null | .boolean _ | .number _ | .string _ => by
      simp [entryTerminals, isVoidUnder]

theorem entriesTerminals_eq_nil_iff (trail : Trail) (place : Nat) :
    (entries : List (String × Json)) →
      (entriesTerminals trail place entries = [] ↔ areVoidEntries entries = true)
  | [] => by simp [entriesTerminals, areVoidEntries]
  | (key, value) :: entries => by
      rw [entriesTerminals, List.append_eq_nil_iff, areVoidEntries, Bool.and_eq_true,
        entryTerminals_eq_nil_iff trail place key value,
        entriesTerminals_eq_nil_iff trail _ entries]

end

end Json

theorem terminals_eq_nil_iff (items : List Json) :
    terminals items = [] ↔ ∀ item ∈ items, item.isVoid = true := by
  rw [terminals, Json.itemsTerminals_eq_nil_iff, Json.areVoid_eq_true_iff]

namespace Query

def tail (query : Query) : String :=
  orderByText query.order ++ pageText query.limit query.offset

theorem clause_eq (query : Query) :
    query.clause = whereText query.filter ++ query.tail := by
  rw [clause, tail, String.append_assoc]

theorem compileClause_object (query : Record) :
    compileClause (.object query) =
      whereText (some (filterOf query)) ++ (ofRecord query).tail :=
  clause_eq (ofRecord query)

theorem compileClause_null : compileClause .null = "" := rfl

theorem filterOf_whereText_eq_empty_iff {query : Record}
    (noText : rawWhere? query = none) :
    (filterOf query).whereText = "" ↔ ∀ item ∈ items query, item.isVoid = true := by
  rw [Filter.filterOf_eq_ofList noText, ← terminals_eq_nil_iff]
  have conveyed := Filter.whereText_conveys (Filter.ofList .and (items query))
    (Filter.allRawFree_ofItems _) rfl
  rw [conveyed.1, Filter.leaves_ofList, List.map_eq_nil_iff]

theorem compileClause_eq_tail_iff {query : Record} (noText : rawWhere? query = none) :
    compileClause (.object query) = (ofRecord query).tail ↔
      ∀ item ∈ items query, item.isVoid = true := by
  rw [compileClause_object, String.append_eq_right_iff, ← filterOf_whereText_eq_empty_iff noText,
    Filter.filterOf_eq_ofList noText, Filter.whereText_ofList]
  split <;> simp_all

theorem compileClause_of_not_void {query : Record} (noText : rawWhere? query = none)
    (filled : ¬ ∀ item ∈ items query, item.isVoid = true) :
    ∃ body, body ≠ "" ∧
      compileClause (.object query) = " WHERE " ++ body ++ (ofRecord query).tail := by
  rw [← filterOf_whereText_eq_empty_iff noText] at filled
  refine ⟨(filterOf query).whereText, filled, ?_⟩
  rw [compileClause_object]
  rw [Filter.filterOf_eq_ofList noText] at filled ⊢
  rw [Filter.whereText_ofList, if_neg filled]

end Query

/-! ## Requests about the rows that a query selects -/

theorem Statement.text_eq_append {statement : String → Statement} {target : Target}
    {head : String} (parts : ∀ clause, (statement clause).text target = head ++ clause)
    (clause : String) :
    (statement clause).text target = (statement "").text target ++ clause := by
  rw [parts clause, parts "", String.append_empty]

namespace Request

def query? : Request → Option Json
  | count query => some query
  | sum _ query => some query
  | findAll query => some query
  | updateAll _ query => some query
  | destroyAll query => some query
  | _ => none

def aboutAllRows : Request → Request
  | count _ => count .null
  | sum field _ => sum field .null
  | findAll _ => findAll .null
  | updateAll changes _ => updateAll changes .null
  | destroyAll _ => destroyAll .null
  | request => request

theorem plan_of_query? {request : Request} {query : Json}
    (about : request.query? = some query) {idAttribute : String} {plan : Plan}
    (accepted : request.plan idAttribute = .ok plan) :
    ∃ (statement : String → Statement) (read : Response → Except Error Answer),
      plan = .single (statement (compileClause query)) read ∧
      request.aboutAllRows.plan idAttribute = .ok (.single (statement "") read) ∧
      ∀ target clause,
        (statement clause).text target = (statement "").text target ++ clause := by
  cases request with
  | count other =>
      obtain rfl : other = query := by simpa [query?] using about
      obtain rfl : _ = plan := Except.ok.inj accepted
      exact ⟨.count, readCount, rfl, rfl, fun _ => Statement.text_eq_append fun _ => rfl⟩
  | findAll other =>
      obtain rfl : other = query := by simpa [query?] using about
      obtain rfl : _ = plan := Except.ok.inj accepted
      exact ⟨.select, _, rfl, rfl, fun _ => Statement.text_eq_append fun _ => rfl⟩
  | destroyAll other =>
      obtain rfl : other = query := by simpa [query?] using about
      obtain rfl : _ = plan := Except.ok.inj accepted
      exact ⟨.delete, _, rfl, rfl, fun _ => Statement.text_eq_append fun _ => rfl⟩
  | sum field other =>
      obtain rfl : other = query := by simpa [query?] using about
      rw [plan_sum] at accepted
      cases checked : Identifier.checkColumnName field with
      | error cause =>
          rw [checked] at accepted
          cases accepted
      | ok _ =>
          rw [checked] at accepted
          obtain rfl : _ = plan := Except.ok.inj accepted
          refine ⟨.sum field, readSum, rfl, ?_,
            fun _ => Statement.text_eq_append fun _ => rfl⟩
          rw [aboutAllRows, plan_sum, checked, Query.compileClause_null]
  | updateAll changes other =>
      obtain rfl : other = query := by simpa [query?] using about
      rw [plan_updateAll] at accepted
      cases given : assignmentsOf changes with
      | error cause =>
          rw [given] at accepted
          cases accepted
      | ok assignments =>
          rw [given] at accepted
          obtain rfl : _ = plan := Except.ok.inj accepted
          refine ⟨.update assignments, readAffected, rfl, ?_,
            fun _ => Statement.text_eq_append fun _ => rfl⟩
          rw [aboutAllRows, plan_updateAll, given, Query.compileClause_null]
  | _ => simp [query?] at about

end Request

theorem Session.sent_perform_single {session : Session} {mapper : Mapper}
    {request : Request} {statement : Statement}
    {read : Response → Except Error Answer}
    (planned : request.plan mapper.idAttribute = .ok (.single statement read))
    (executor : Executor) :
    (session.perform executor mapper request).sent =
      [statement.text (session.target mapper)] := by
  rw [perform, planned]
  change (session.runner.runOne executor _).sent = _
  unfold Runner.runOne
  split <;> rfl

theorem Session.sent_perform_of_query? {request : Request} {query : Json}
    (about : request.query? = some query) {mapper : Mapper} {plan : Plan}
    (accepted : request.plan mapper.idAttribute = .ok plan) (session : Session)
    (executor : Executor) :
    ∃ head, (session.perform executor mapper request.aboutAllRows).sent = [head] ∧
      (session.perform executor mapper request).sent =
        [head ++ compileClause query] := by
  obtain ⟨statement, read, rfl, overAll, text⟩ := Request.plan_of_query? about accepted
  refine ⟨_, sent_perform_single overAll executor, ?_⟩
  rw [sent_perform_single accepted executor, text]

namespace Query

/-- A query that is not SQL text leaves the rows unrestricted exactly if its items
are void: then and only then its clause, and what is sent for a request about its
rows, has no WHERE part.  One entry that holds a condition, at any depth, is
enough to restrict them. -/
theorem unrestricted_iff_void (query : Record) (noText : rawWhere? query = none) :
    (compileClause (.object query) = (ofRecord query).tail ↔
      ∀ item ∈ items query, item.isVoid = true) ∧
    ((¬ ∀ item ∈ items query, item.isVoid = true) →
      ∃ body, body ≠ "" ∧
        compileClause (.object query) = " WHERE " ++ body ++ (ofRecord query).tail) ∧
    (∀ terminal : Terminal, terminal.IsIn (items query) →
      compileClause (.object query) ≠ (ofRecord query).tail) ∧
    (∀ (session : Session) (executor : Executor) (mapper : Mapper) (request : Request)
        (plan : Plan), request.query? = some (.object query) →
      request.plan mapper.idAttribute = .ok plan →
      ∃ head, (session.perform executor mapper request.aboutAllRows).sent = [head] ∧
        ((session.perform executor mapper request).sent =
            [head ++ (ofRecord query).tail] ↔
          ∀ item ∈ items query, item.isVoid = true)) := by
  have unrestricted := compileClause_eq_tail_iff noText
  refine ⟨unrestricted, compileClause_of_not_void noText, ?_, ?_⟩
  · intro terminal inside same
    have none : terminals (items query) = [] :=
      (terminals_eq_nil_iff _).mpr (unrestricted.mp same)
    have member := (mem_terminals_iff _ terminal).mpr inside
    rw [none] at member
    exact List.not_mem_nil member
  · intro session executor mapper request plan about accepted
    obtain ⟨head, overAll, sent⟩ :=
      Session.sent_perform_of_query? about accepted session executor
    refine ⟨head, overAll, ?_⟩
    rw [sent, List.cons_eq_cons, String.append_right_inj, unrestricted]
    simp

def overriddenQuery : Record :=
  [("a", .boolean true), ("Or", .array [.null, .array []]),
   ("where", .object [("a", .object [("and", .array [])])])]

theorem overriddenQuery_unrestricted :
    rawWhere? overriddenQuery = none ∧ compileClause (.object overriddenQuery) = "" := by
  have void : ∀ item ∈ items overriddenQuery, item.isVoid = true := by decide
  exact ⟨rfl, (unrestricted_iff_void overriddenQuery rfl).1.mpr void⟩

end Query

end JsonSql
