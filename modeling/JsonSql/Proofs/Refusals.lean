import JsonSql.Proofs.Alignment
import JsonSql.Proofs.ColumnNames
import JsonSql.Proofs.Runs
import JsonSql.Session

/-!
# Refused requests

A request that names no column, brings no record with a key or changes nothing is
refused while it is planned, with nothing sent and nothing logged.  All other
requests are planned in full, and what is sent for them is fixed by the plan
before any reply.
-/

namespace JsonSql

/-- The database reports errors of execution only. -/
def Executor.FailsInExecution (executor : Executor) : Prop :=
  ∀ index statement error,
    (executor index statement).outcome = .error error → error.kind = .execution

namespace Runner

variable (runner : Runner) {executor : Executor}

theorem kind_of_outcome (dependable : executor.FailsInExecution) {index : Nat}
    {statement : String} {error : Error}
    (fails : (runner.startOf executor index statement).reply.outcome = .error error) :
    error.kind = .execution := by
  simp only [startOf, Reply.within] at fails
  split at fails
  · exact dependable index statement error fails
  · cases fails
    rfl

theorem kind_of_mem_outcomes (dependable : executor.FailsInExecution)
    {statements : List String} {error : Error}
    (member : .error error ∈ runner.outcomes executor statements) :
    error.kind = .execution := by
  obtain ⟨started, there, fails⟩ := List.mem_map.mp member
  obtain ⟨place, valid, rfl⟩ := List.mem_mapIdx.mp there
  exact runner.kind_of_outcome dependable fails

theorem runOne_cases (executor : Executor) (statement : String) :
    (runner.runOne executor statement).sent = [statement] ∧
      (runner.runOne executor statement).result =
        (runner.startOf executor 0 statement).reply.outcome := by
  unfold runOne startOf
  split
  · rename_i response outcome
    exact ⟨rfl, outcome.symm⟩
  · rename_i error outcome
    exact ⟨rfl, outcome.symm⟩

end Runner

theorem assignmentsOf_cases (changes : Json) :
    (Grid.keysOf changes = [] ∧ assignmentsOf changes = .error .emptyAssignment) ∨
      (Grid.keysOf changes ≠ [] ∧ ∃ assignments,
        assignmentsOf changes = .ok assignments) := by
  cases changes with
  | object entries =>
      cases entries with
      | nil => exact .inl ⟨rfl, rfl⟩
      | cons entry entries =>
          exact .inr ⟨by simp [Grid.keysOf, Json.record?, Record.keys], _, rfl⟩
  | _ => exact .inl ⟨rfl, rfl⟩

theorem updateOf_cases (idAttribute : String) (record : Json) :
    (Grid.keysOf record = [] ∧ updateOf idAttribute record = .error .emptyAssignment) ∨
      (Grid.keysOf record ≠ [] ∧ ∃ statement,
        updateOf idAttribute record = .ok statement) := by
  rcases assignmentsOf_cases record with ⟨blank, refused⟩ | ⟨filled, assignments, given⟩
  · exact .inl ⟨blank, by rw [updateOf, refused]; rfl⟩
  · exact .inr ⟨filled, _, by rw [updateOf, given]; rfl⟩

theorem mapM_updateOf_cases (idAttribute : String) (records : List Json) :
    ((∃ record ∈ records, Grid.keysOf record = []) ∧
      records.mapM (updateOf idAttribute) = .error .emptyAssignment) ∨
    ((∀ record ∈ records, Grid.keysOf record ≠ []) ∧ ∃ statements,
      records.mapM (updateOf idAttribute) = .ok statements ∧
        statements.length = records.length) := by
  induction records with
  | nil => exact .inr ⟨by simp, [], rfl, rfl⟩
  | cons record records ih =>
      rw [List.mapM_cons]
      rcases updateOf_cases idAttribute record with ⟨blank, refused⟩ | ⟨filled, first, given⟩
      · refine .inl ⟨⟨record, List.mem_cons_self, blank⟩, ?_⟩
        rw [refused]
        rfl
      · rw [given]
        rcases ih with ⟨⟨other, member, blank⟩, refused⟩ | ⟨allFilled, rest, planned, count⟩
        · refine .inl ⟨⟨other, List.mem_cons_of_mem _ member, blank⟩, ?_⟩
          rw [refused]
          rfl
        · refine .inr ⟨List.forall_mem_cons.mpr ⟨filled, allFilled⟩, first :: rest, ?_, ?_⟩
          · rw [planned]
            rfl
          · rw [List.length_cons, List.length_cons, count]

namespace Request

def refusalKind? : Request → Option ErrorKind
  | sum _ _ => some .invalidField
  | create _ => some .emptyInput
  | update _ _ | updateAll _ _ | updateMany _ => some .emptyAssignment
  | _ => none

/-- No column to add up, no key in the records to create, or a record to be updated
without a key.  A value that is no object has no keys. -/
def LacksInput : Request → Prop
  | sum field _ => ¬ Identifier.IsColumnName field
  | create records => ∀ record ∈ Grid.recordsIn records, Grid.keysOf record = []
  | update _ changes | updateAll changes _ => Grid.keysOf changes = []
  | updateMany records => ∃ record ∈ records, Grid.keysOf record = []
  | _ => False

theorem plan_create_cases (idAttribute : String) (records : Json) :
    ((create records).LacksInput ∧ ∃ error,
      plan idAttribute (create records) = .error error ∧ error.kind = .emptyInput) ∨
    (¬ (create records).LacksInput ∧ ∃ plan,
      (create records).plan idAttribute = .ok plan ∧ plan.statements ≠ []) := by
  rw [plan_create]
  cases made : Grid.ofJson records with
  | error cause =>
      exact .inl ⟨(Grid.ofJson_refused_iff records).mp ⟨cause, made⟩, _, rfl, rfl⟩
  | ok grid =>
      have filled : ¬ (create records).LacksInput := by
        intro lacks
        obtain ⟨cause, refused⟩ := (Grid.ofJson_refused_iff records).mpr lacks
        rw [made] at refused
        cases refused
      refine .inr ⟨filled, _, rfl, ?_⟩
      obtain ⟨wide, -, cells⟩ := Grid.columns_cells_of_ofJson made
      rw [Plan.statements, Grid.insertions_of_cells wide cells, ne_eq, List.map_eq_nil_iff]
      intro none
      refine filled ?_
      rw [LacksInput, none]
      exact fun record member => absurd member List.not_mem_nil

theorem plan_updateMany_cases (idAttribute : String) (records : List Json) :
    ((updateMany records).LacksInput ∧
      plan idAttribute (updateMany records) = .error .emptyAssignment) ∨
    (¬ (updateMany records).LacksInput ∧ ∃ statements,
      plan idAttribute (updateMany records) =
        .ok (.bulk .update statements fun responses => .count responses.length) ∧
      statements.length = records.length) := by
  rw [plan_updateMany]
  rcases mapM_updateOf_cases idAttribute records with
    ⟨blank, refused⟩ | ⟨filled, statements, planned, count⟩
  · exact .inl ⟨blank, by rw [refused]⟩
  · refine .inr ⟨?_, statements, by rw [planned], count⟩
    rintro ⟨record, member, blank⟩
    exact filled record member blank

/-- What planning a request amounts to: a refusal of its kind, or a plan with a
statement at least, unless there is no record to update. -/
theorem plan_cases (idAttribute : String) {request : Request} {kind : ErrorKind}
    (guarded : request.refusalKind? = some kind) :
    (request.LacksInput ∧ ∃ error, request.plan idAttribute = .error error ∧
      error.kind = kind) ∨
    (¬ request.LacksInput ∧ ∃ plan, request.plan idAttribute = .ok plan ∧
      (plan.statements = [] → request = .updateMany [])) := by
  cases request with
  | sum field query =>
      obtain rfl : ErrorKind.invalidField = kind := Option.some.inj guarded
      rw [plan_sum]
      rcases Identifier.checkColumnName_cases field with
        ⟨named, accepted⟩ | ⟨unnamed, cause, refused⟩
      · exact .inr ⟨not_not.mpr named, _, by rw [accepted], by simp [Plan.statements]⟩
      · exact .inl ⟨unnamed, _, by rw [refused], rfl⟩
  | create records =>
      obtain rfl : ErrorKind.emptyInput = kind := Option.some.inj guarded
      rcases plan_create_cases idAttribute records with
        refused | ⟨filled, plan, planned, statements⟩
      · exact .inl refused
      · exact .inr ⟨filled, plan, planned, fun none => absurd none statements⟩
  | update id changes =>
      obtain rfl : ErrorKind.emptyAssignment = kind := Option.some.inj guarded
      rw [plan_update]
      rcases assignmentsOf_cases changes with ⟨blank, refused⟩ | ⟨filled, assignments, given⟩
      · exact .inl ⟨blank, _, by rw [refused], rfl⟩
      · exact .inr ⟨filled, _, by rw [given], by simp [Plan.statements]⟩
  | updateAll changes query =>
      obtain rfl : ErrorKind.emptyAssignment = kind := Option.some.inj guarded
      rw [plan_updateAll]
      rcases assignmentsOf_cases changes with ⟨blank, refused⟩ | ⟨filled, assignments, given⟩
      · exact .inl ⟨blank, _, by rw [refused], rfl⟩
      · exact .inr ⟨filled, _, by rw [given], by simp [Plan.statements]⟩
  | updateMany records =>
      obtain rfl : ErrorKind.emptyAssignment = kind := Option.some.inj guarded
      rcases plan_updateMany_cases idAttribute records with
        ⟨lacks, refused⟩ | ⟨filled, statements, planned, count⟩
      · exact .inl ⟨lacks, _, refused, rfl⟩
      · refine .inr ⟨filled, _, planned, fun none => ?_⟩
        have noStatements : statements = [] := none
        rw [noStatements, List.length_nil] at count
        rw [List.length_eq_zero_iff.mp count.symm]
  | _ => simp [refusalKind?] at guarded

end Request

/-! ## Performing what is planned -/

def Plan.texts (target : Target) (plan : Plan) : List String :=
  plan.statements.map (Statement.text target)

@[simp] theorem Run.sent_andThen (run : Run α) (next : α → Except Error β) :
    (run.andThen next).sent = run.sent := rfl

namespace Session

variable {session : Session} {executor : Executor} {mapper : Mapper} {request : Request}

theorem perform_of_refused {error : Error}
    (refused : request.plan mapper.idAttribute = .error error) :
    session.perform executor mapper request = ⟨[], .error error⟩ := by
  rw [perform, refused]

theorem perform_of_planned {plan : Plan}
    (planned : request.plan mapper.idAttribute = .ok plan) :
    session.perform executor mapper request =
      session.runPlan executor (session.target mapper) plan := by
  rw [perform, planned]

/-- The statements of a plan are sent from the first one on, and all of them unless
one fails. -/
theorem sent_runPlan (session : Session) (executor : Executor) (target : Target)
    (plan : Plan) :
    (session.runPlan executor target plan).sent <+: plan.texts target ∧
      (plan.texts target ≠ [] → (session.runPlan executor target plan).sent ≠ []) ∧
      ((∀ outcome ∈ session.runner.outcomes executor (plan.texts target),
          ∃ response, outcome = .ok response) →
        (session.runPlan executor target plan).sent = plan.texts target) := by
  cases plan with
  | single statement read =>
      have sent : (session.runPlan executor target (.single statement read)).sent =
          [statement.text target] :=
        (session.runner.runOne_cases executor (statement.text target)).1
      rw [sent]
      exact ⟨List.prefix_refl _, by simp, fun _ => rfl⟩
  | bulk operation statements read =>
      rcases session.runner.runAll_cases executor operation
        (statements.map (Statement.text target)) with
        ⟨responses, -, sent, -⟩ | ⟨place, error, fails, -, start, reached⟩
      · rw [runPlan, Run.sent_andThen, sent]
        exact ⟨List.prefix_refl _, id, fun _ => rfl⟩
      · rw [runPlan, Run.sent_andThen]
        refine ⟨start, fun _ none => ?_, fun succeed =>
          absurd succeed (Runner.not_succeed_of_error (List.mem_of_getElem? fails))⟩
        rw [none] at reached
        simp at reached

end Session

theorem error_of_bind {first : Except Error α} {next : α → Except Error β} {error : Error}
    (fails : first.bind next = .error error) :
    first = .error error ∨ ∃ value, first = .ok value ∧ next value = .error error := by
  cases first with
  | error cause =>
      obtain rfl : cause = error := Except.error.inj fails
      exact .inl rfl
  | ok value => exact .inr ⟨value, rfl, fails⟩

theorem kind_of_firstColumn {column : String} {response : Response} {error : Error}
    (fails : firstColumn column response = .error error) :
    error.kind = .unexpectedResponse := by
  unfold firstColumn at fails
  split at fails
  · cases fails
    rfl
  · split at fails
    · cases fails
    · cases fails
      rfl

theorem kind_of_readCount {response : Response} {error : Error}
    (fails : readCount response = .error error) : error.kind = .unexpectedResponse := by
  unfold readCount at fails
  rcases error_of_bind fails with missing | ⟨value, -, noCount⟩
  · exact kind_of_firstColumn missing
  · split at noCount
    · cases noCount
    · cases noCount
      rfl

theorem kind_of_readSum {response : Response} {error : Error}
    (fails : readSum response = .error error) : error.kind = .unexpectedResponse := by
  unfold readSum at fails
  cases found : firstColumn "SUM" response with
  | error cause =>
      rw [found] at fails
      obtain rfl : cause = error := Except.error.inj fails
      exact kind_of_firstColumn found
  | ok value =>
      rw [found] at fails
      cases fails

theorem Request.kind_of_read {request : Request} {idAttribute : String}
    {statement : Statement} {read : Response → Except Error Answer}
    (planned : request.plan idAttribute = .ok (.single statement read))
    {response : Response} {error : Error} (fails : read response = .error error) :
    error.kind = .unexpectedResponse := by
  cases request with
  | count query =>
      cases planned
      exact kind_of_readCount fails
  | sum field query =>
      rw [plan_sum] at planned
      split at planned
      · cases planned
        exact kind_of_readSum fails
      · cases planned
  | create records =>
      rw [plan_create] at planned
      split at planned <;> cases planned
  | update id changes =>
      rw [plan_update] at planned
      split at planned
      · cases planned
        cases fails
      · cases planned
  | updateAll changes query =>
      rw [plan_updateAll] at planned
      split at planned
      · cases planned
        cases fails
      · cases planned
  | updateMany records =>
      rw [plan_updateMany] at planned
      split at planned <;> cases planned
  | _ =>
      cases planned
      cases fails

namespace Session

variable {session : Session} {executor : Executor} {mapper : Mapper} {request : Request}

theorem kind_of_perform (dependable : executor.FailsInExecution) {plan : Plan}
    (planned : request.plan mapper.idAttribute = .ok plan) {error : Error}
    (failed : (session.perform executor mapper request).result = .error error) :
    error.kind ∈ [ErrorKind.execution, .unexpectedResponse, .noRowsAffected] := by
  rw [perform_of_planned planned] at failed
  cases plan with
  | single statement read =>
      rw [runPlan, Run.andThen] at failed
      rcases error_of_bind failed with fails | ⟨response, -, unread⟩
      · rw [(session.runner.runOne_cases executor _).2] at fails
        simp [session.runner.kind_of_outcome dependable fails]
      · simp [Request.kind_of_read planned unread]
  | bulk operation statements read =>
      rw [runPlan, Run.andThen] at failed
      rcases error_of_bind failed with fails | ⟨responses, -, unread⟩
      · rcases session.runner.runAll_cases executor operation
          (statements.map (Statement.text (session.target mapper))) with
          ⟨responses, -, -, result⟩ | ⟨place, cause, failure, result, -⟩
        · rw [result] at fails
          split at fails
          · cases fails
            simp [Error.kind]
          · cases fails
        · rw [result] at fails
          obtain rfl : cause = error := Except.error.inj fails
          simp [session.runner.kind_of_mem_outcomes dependable
            (List.mem_of_getElem? failure)]
      · cases unread

end Session

/-! ## Refusal before sending -/

namespace Request

theorem refusalKind?_ne {request : Request} {kind : ErrorKind}
    (guarded : request.refusalKind? = some kind) :
    kind ∉ [ErrorKind.execution, .unexpectedResponse, .noRowsAffected] := by
  cases request <;> cases guarded <;> decide

/-- A request that lacks its input is refused, with the error of its kind, before
anything is sent or logged, and no other request is.  All others send a statement at
least, but for an update of no record, which is done with none.  What is sent is the
beginning of a list that the request alone gives, whatever the settings are and the
database replies, and the whole list if no statement fails. -/
theorem refused_before_sending (tableName : Mapper → String) (mapper : Mapper)
    (request : Request) (kind : ErrorKind)
    (guarded : request.refusalKind? = some kind) :
    (∀ settings executor, executor.FailsInExecution →
      ((∃ error, error.kind = kind ∧
          (Session.perform ⟨settings, tableName⟩ executor mapper request).result =
            .error error) ↔
        request.LacksInput)) ∧
    (request.LacksInput → ∀ settings executor,
      (Session.perform ⟨settings, tableName⟩ executor mapper request).trace = []) ∧
    (¬ request.LacksInput → request ≠ .updateMany [] → ∀ settings executor,
      (Session.perform ⟨settings, tableName⟩ executor mapper request).sent ≠ []) ∧
    (∀ settings executor,
      Session.perform ⟨settings, tableName⟩ executor mapper (.updateMany []) =
        ⟨[], .ok (.count 0)⟩) ∧
    ∃ statements : List String, ∀ settings executor,
      (Session.perform ⟨settings, tableName⟩ executor mapper request).sent <+:
          statements ∧
        ((∀ outcome ∈ Runner.outcomes (Session.runner ⟨settings, tableName⟩) executor
            statements, ∃ response, outcome = .ok response) →
          (Session.perform ⟨settings, tableName⟩ executor mapper request).sent =
            statements) := by
  have noRecord (settings : Settings) (executor : Executor) :
      Session.perform ⟨settings, tableName⟩ executor mapper (.updateMany []) =
        ⟨[], .ok (.count 0)⟩ := rfl
  rcases plan_cases mapper.idAttribute guarded with
    ⟨lacks, error, refused, sameKind⟩ | ⟨complete, plan, planned, oneAtLeast⟩
  · refine ⟨fun settings executor _ => iff_of_true ⟨error, sameKind, ?_⟩ lacks,
      fun _ settings executor => ?_, fun complete => absurd lacks complete, noRecord, [],
      fun settings executor => ?_⟩
    · rw [Session.perform_of_refused refused]
    · rw [Session.perform_of_refused refused]
    · rw [Session.perform_of_refused refused]
      exact ⟨List.prefix_refl _, fun _ => rfl⟩
  · refine ⟨fun settings executor dependable => iff_of_false ?_ complete,
      fun lacks => absurd lacks complete, fun _ someRecord settings executor => ?_, noRecord,
      plan.texts ⟨tableName mapper, mapper.idAttribute⟩, fun settings executor => ?_⟩
    · rintro ⟨error, rfl, failed⟩
      exact refusalKind?_ne guarded (Session.kind_of_perform dependable planned failed)
    · rw [Session.perform_of_planned planned]
      refine (Session.sent_runPlan _ executor _ plan).2.1 fun none => ?_
      exact someRecord (oneAtLeast (List.map_eq_nil_iff.mp none))
    · rw [Session.perform_of_planned planned]
      obtain ⟨start, -, all⟩ := Session.sent_runPlan ⟨settings, tableName⟩ executor
        ⟨tableName mapper, mapper.idAttribute⟩ plan
      exact ⟨start, all⟩

def halfEmptyUpdate : Request :=
  .updateMany [.object [("id", .boolean true), ("a", .null)], .object []]

def fullUpdate : Request :=
  .updateMany [.object [("id", .boolean true), ("a", .null)], .object [("a", .null)]]

def lostConnection : Executor := fun index _ =>
  ⟨if index = 0 then 5 else 0, .error (.reported .execution "connection refused")⟩

def jobs : Mapper := ⟨"jobs", "JOBS", "id"⟩

theorem halfEmptyUpdate_refused_fullUpdate_sent :
    halfEmptyUpdate.refusalKind? = some .emptyAssignment ∧
      lostConnection.FailsInExecution ∧ halfEmptyUpdate.LacksInput ∧
      (∃ error, error.kind = .emptyAssignment ∧
        (Session.perform { } lostConnection jobs halfEmptyUpdate).result = .error error) ∧
      (Session.perform { } lostConnection jobs halfEmptyUpdate).trace = [] ∧
      ¬ fullUpdate.LacksInput ∧
      (Session.perform { } lostConnection jobs fullUpdate).sent ≠ [] := by
  have dependable : lostConnection.FailsInExecution := by
    intro index statement error fails
    obtain rfl := Except.error.inj fails
    rfl
  have lacks : halfEmptyUpdate.LacksInput := ⟨.object [], by simp, rfl⟩
  have complete : ¬ fullUpdate.LacksInput := by
    simp [fullUpdate, LacksInput, Grid.keysOf, Json.record?, Record.keys]
  have half := refused_before_sending Mapper.quotedTable jobs halfEmptyUpdate _ rfl
  have full := refused_before_sending Mapper.quotedTable jobs fullUpdate _ rfl
  exact ⟨rfl, dependable, lacks, (half.1 { } lostConnection dependable).mpr lacks,
    half.2.1 lacks { } lostConnection, complete,
    full.2.2.1 complete (by simp [fullUpdate]) { } lostConnection⟩

end Request

end JsonSql
