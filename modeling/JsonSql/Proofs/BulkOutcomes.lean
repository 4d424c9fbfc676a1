import JsonSql.Proofs.Refusals

/-!
# Outcomes of bulk requests

The statements of a bulk request are under way together.  How the request ends
depends on their outcomes alone, in whatever order the replies come in: it is
answered if every statement has touched a row, it reports the operation if one
has touched none, and it fails as one of the statements that failed.
-/

namespace JsonSql

namespace Request

def bulk? : Request → Option (BulkOperation × Answer)
  | create records => some (.creation, .value records)
  | updateMany records => some (.update, .count records.length)
  | _ => none

theorem plan_of_bulk? {request : Request} {operation : BulkOperation} {answer : Answer}
    (bulk : request.bulk? = some (operation, answer)) {idAttribute : String} {plan : Plan}
    (planned : request.plan idAttribute = .ok plan) :
    ∃ statements read, plan = .bulk operation statements read ∧
      ∀ responses : List Response, responses.length = statements.length →
        read responses = answer := by
  cases request with
  | create records =>
      cases bulk
      rw [plan_create] at planned
      split at planned
      · cases planned
        exact ⟨_, _, rfl, fun _ _ => rfl⟩
      · cases planned
  | updateMany records =>
      cases bulk
      rcases plan_updateMany_cases idAttribute records with
        ⟨-, refused⟩ | ⟨-, statements, accepted, count⟩
      · rw [refused] at planned
        cases planned
      · rw [accepted] at planned
        cases planned
        exact ⟨statements, _, rfl, fun responses same => by rw [same, count]⟩
  | _ => cases bulk

end Request

theorem Error.message_noRowsAffected (operation : BulkOperation)
    (statements : List String) :
    (noRowsAffected operation statements).message =
      operation.name ++ " failed, no rows affected. SQL: " ++
        "\n".intercalate statements :=
  String.empty_append

/-- How a run ends that is about several statements: answered exactly if each outcome
is a response about a row at least, and reporting the operation with its statements
exactly if all are responses and one is about no row.  Both times each statement was
sent once, in their order.  If one fails, the run fails as one of those that were
sent, which are the first of the list. -/
structure Run.EndsBy (run : Run Answer) (operation : BulkOperation)
    (statements : List String) (answer : Answer)
    (outcomes : List (Except Error Response)) : Prop where
  answered : ∀ given, run.result = .ok given ↔ given = answer ∧
    ∀ outcome ∈ outcomes, ∃ response,
      outcome = .ok response ∧ 1 ≤ response.affectedCount
  reported : ∀ error, error.kind = .noRowsAffected →
    (run.result = .error error ↔ error = .noRowsAffected operation statements ∧
      (∀ outcome ∈ outcomes, ∃ response, outcome = .ok response) ∧
      ∃ response, .ok response ∈ outcomes ∧ response.affectedCount = 0)
  sentAll : (∀ outcome ∈ outcomes, ∃ response, outcome = .ok response) →
    run.sent = statements
  failed : ∀ cause, .error cause ∈ outcomes →
    ∃ place error, outcomes[place]? = some (.error error) ∧
      run.result = .error error ∧ run.sent <+: statements ∧ place < run.sent.length

namespace Run

variable {run : Run Answer} {operation : BulkOperation} {statements : List String}
  {answer : Answer}

theorem endsBy_of_responses {responses : List Response} (sent : run.sent = statements)
    (result : run.result =
      if responses.any fun response => response.affectedCount == 0 then
        .error (.noRowsAffected operation statements)
      else .ok answer) :
    run.EndsBy operation statements answer (responses.map .ok) := by
  have succeed : ∀ outcome ∈ (responses.map .ok : List (Except Error Response)),
      ∃ response, outcome = .ok response :=
    List.forall_mem_map.mpr fun response _ => ⟨response, rfl⟩
  have touched : (∀ outcome ∈ (responses.map .ok : List (Except Error Response)),
        ∃ response, outcome = .ok response ∧ 1 ≤ response.affectedCount) ↔
      ¬ (responses.any fun response => response.affectedCount == 0) = true := by
    simp [Nat.one_le_iff_ne_zero]
  have untouched : (∃ response,
        .ok response ∈ (responses.map .ok : List (Except Error Response)) ∧
          response.affectedCount = 0) ↔
      (responses.any fun response => response.affectedCount == 0) = true := by
    simp
  refine ⟨fun given => ?_, fun error _ => ?_, fun _ => sent, fun cause member =>
    absurd succeed (Runner.not_succeed_of_error member)⟩
  · rw [touched, result]
    split
    · rename_i oneUntouched
      simp [oneUntouched]
    · rename_i allTouched
      simp [allTouched, eq_comm]
  · rw [untouched, result]
    split
    · rename_i oneUntouched
      simp only [oneUntouched, and_true, Except.error.injEq]
      exact ⟨fun same => ⟨same.symm, succeed⟩, fun both => both.1.symm⟩
    · rename_i allTouched
      simp [allTouched]

theorem endsBy_of_failure {outcomes : List (Except Error Response)} {place : Nat}
    {cause : Error} (fails : outcomes[place]? = some (.error cause))
    (otherKind : cause.kind ≠ .noRowsAffected) (result : run.result = .error cause)
    (start : run.sent <+: statements) (reached : place < run.sent.length) :
    run.EndsBy operation statements answer outcomes := by
  have notAll := Runner.not_succeed_of_error (List.mem_of_getElem? fails)
  refine ⟨fun given => ?_, fun error sameKind => ?_, fun succeed => absurd succeed notAll,
    fun _ _ => ⟨place, cause, fails, result, start, reached⟩⟩
  · rw [result]
    refine iff_of_false (by simp) ?_
    rintro ⟨-, touched⟩
    refine notAll fun outcome member => ?_
    obtain ⟨response, answers, -⟩ := touched outcome member
    exact ⟨response, answers⟩
  · rw [result]
    refine iff_of_false ?_ fun reported => notAll reported.2.1
    intro same
    obtain rfl : cause = error := Except.error.inj same
    exact otherKind sameKind

end Run

namespace Request

/-- However the replies come in, a bulk request ends by the outcomes of its
statements, and its report holds all of them, one on a line. -/
theorem bulk_ends_by_outcomes (session : Session) (executor : Executor)
    (mapper : Mapper) {request : Request} {operation : BulkOperation} {answer : Answer}
    {plan : Plan} (bulk : request.bulk? = some (operation, answer))
    (planned : request.plan mapper.idAttribute = .ok plan)
    (dependable : executor.FailsInExecution) :
    (session.perform executor mapper request).EndsBy operation
        (plan.texts (session.target mapper)) answer
        (session.runner.outcomes executor (plan.texts (session.target mapper))) ∧
      (Error.noRowsAffected operation (plan.texts (session.target mapper))).message =
        operation.name ++ " failed, no rows affected. SQL: " ++
          "\n".intercalate (plan.texts (session.target mapper)) := by
  refine ⟨?_, Error.message_noRowsAffected _ _⟩
  obtain ⟨statements, read, rfl, answers⟩ := plan_of_bulk? bulk planned
  rw [Session.perform_of_planned planned, Session.runPlan]
  rcases session.runner.runAll_cases executor operation
    (statements.map (Statement.text (session.target mapper))) with
    ⟨responses, answered, sent, result⟩ | ⟨place, cause, fails, result, start, reached⟩
  · have count : responses.length = statements.length := by
      have lengths := congrArg List.length answered
      rwa [Runner.length_outcomes, List.length_map, List.length_map, eq_comm] at lengths
    rw [Plan.texts, Plan.statements, answered]
    refine Run.endsBy_of_responses sent ?_
    rw [Run.andThen, result, ← answers responses count]
    split <;> rfl
  · have inExecution := session.runner.kind_of_mem_outcomes dependable
      (List.mem_of_getElem? fails)
    refine Run.endsBy_of_failure fails (by simp [inExecution]) ?_ start reached
    rw [Run.andThen, result]
    rfl

def missedRow : Executor := fun index _ =>
  if index = 0 then ⟨7, .ok (.affected 1)⟩ else ⟨3, .ok (.affected 0)⟩

theorem fullUpdate_reports_missedRow :
    ∃ plan, fullUpdate.plan jobs.idAttribute = .ok plan ∧
      fullUpdate.bulk? = some (.update, .count 2) ∧ missedRow.FailsInExecution ∧
      (Session.perform { } missedRow jobs fullUpdate).result =
        .error (.noRowsAffected .update (plan.texts (Session.target { } jobs))) ∧
      (Session.perform { } missedRow jobs fullUpdate).sent =
        plan.texts (Session.target { } jobs) := by
  have dependable : missedRow.FailsInExecution := by
    intro index statement error fails
    unfold missedRow at fails
    split at fails <;> cases fails
  have bulk : fullUpdate.bulk? = some (.update, .count 2) := rfl
  have planned : fullUpdate.plan jobs.idAttribute = .ok _ := rfl
  have ends : (Session.perform { } missedRow jobs fullUpdate).EndsBy .update _ (.count 2)
      [.ok (.affected 1), .ok (.affected 0)] :=
    (bulk_ends_by_outcomes { } missedRow jobs bulk planned dependable).1
  have allAnswered : ∀ outcome ∈ ([.ok (.affected 1), .ok (.affected 0)] :
      List (Except Error Response)), ∃ response, outcome = .ok response := by simp
  refine ⟨_, planned, bulk, dependable, ?_, ends.sentAll allAnswered⟩
  exact (ends.reported _ rfl).mpr ⟨rfl, allAnswered, .affected 0, by simp, rfl⟩

end Request

end JsonSql
