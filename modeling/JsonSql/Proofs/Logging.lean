import JsonSql.Proofs.BulkOutcomes
import JsonSql.Proofs.Traces

/-!
# Logs of requests

What a request logs is fixed by the statements that it sends, their failures and its
result.  Whether statements are logged prominently changes the level of their
announcements and nothing else: the statements, their order, the other events and the
result stay as they are.
-/

namespace JsonSql

def Event.atLevel (level : Level) : Event → Event
  | executing _ statement => executing level statement
  | failed statement error => failed statement error
  | noRowsAffected operation statements => noRowsAffected operation statements

def Action.atLevel (level : Level) : Action → Action
  | log event => log (event.atLevel level)
  | send statement => send statement

def Run.atLevel (level : Level) (run : Run α) : Run α :=
  ⟨run.trace.map (Action.atLevel level), run.result⟩

theorem Run.sent_atLevel (level : Level) (run : Run α) :
    (run.atLevel level).sent = run.sent := by
  have kept : Action.sent? ∘ Action.atLevel level = Action.sent? := by
    funext action
    cases action <;> rfl
  rw [Run.sent, Run.atLevel, List.filterMap_map, kept, Run.sent]

namespace Runner

def atLevel (level : Level) (runner : Runner) : Runner :=
  { runner with level := level }

section

variable (runner : Runner) (executor : Executor) (level : Level)

@[simp] theorem start_atLevel (statement : String) :
    (runner.atLevel level).start statement =
      (runner.start statement).map (Action.atLevel level) := rfl

@[simp] theorem report_atLevel (failure : Failure) :
    failure.report.atLevel level = failure.report := rfl

theorem runOne_atLevel (statement : String) :
    (runner.atLevel level).runOne executor statement =
      (runner.runOne executor statement).atLevel level := by
  have sameReply : (executor 0 statement).within (runner.atLevel level).timeout =
    (executor 0 statement).within runner.timeout := rfl
  rw [runOne, runOne, sameReply]
  cases ((executor 0 statement).within runner.timeout).outcome <;> rfl

theorem startAll_atLevel (precedence : Precedence) (index : Nat) (waiting : Bool)
    (statements : List String) :
    (runner.atLevel level).startAll executor precedence index waiting statements =
      (runner.startAll executor precedence index waiting statements).atLevel level := by
  induction statements generalizing index waiting with
  | nil => rfl
  | cons statement statements ih =>
      have sameStart : (runner.atLevel level).startOf executor index statement =
        runner.startOf executor index statement := rfl
      rw [startAll_cons, startAll_cons, sameStart, ih]
      cases (runner.startOf executor index statement).failureAtOnce? with
      | none => simp [Run.atLevel]
      | some failure =>
          cases waiting with
          | false => rfl
          | true => simp [Run.atLevel]

theorem runAll_atLevel (operation : BulkOperation) (statements : List String) :
    (runner.atLevel level).runAll executor operation statements =
      (runner.runAll executor operation statements).atLevel level := by
  rw [runAll, runAll, startAll_atLevel]
  generalize runner.startAll executor (.ofSize statements.length) 0 false statements =
    started
  rcases started with ⟨trace, error | started⟩
  · rfl
  · simp only [Run.atLevel]
    cases breakdown? started (.ofSize statements.length) with
    | some breakdown => simp
    | none =>
        cases (started.filterMap Started.response?).any fun response =>
          response.affectedCount == 0 with
        | true => simp [Action.atLevel, Event.atLevel]
        | false => rfl

end

end Runner

namespace Request

variable {request : Request} {idAttribute : String}

theorem kind_of_refused {error : Error} (refused : request.plan idAttribute = .error error) :
    error.kind ≠ .noRowsAffected := by
  cases guarded : request.refusalKind? with
  | some kind =>
      rcases plan_cases idAttribute guarded with ⟨-, cause, given, rfl⟩ | ⟨-, plan, planned, -⟩
      · rw [given] at refused
        obtain rfl : cause = error := Except.error.inj refused
        intro sameKind
        exact refusalKind?_ne guarded (by simp [sameKind])
      · rw [planned] at refused
        cases refused
  | none =>
      cases request with
      | count | find | findAll | destroy | destroyAll => cases refused
      | _ => cases guarded

theorem plan_of_single (single : request.bulk? = none) {plan : Plan}
    (planned : request.plan idAttribute = .ok plan) :
    ∃ statement read, plan = .single statement read := by
  cases request with
  | count | find | findAll | destroy | destroyAll =>
      cases planned
      exact ⟨_, _, rfl⟩
  | sum | update | updateAll =>
      simp only [plan_sum, plan_update, plan_updateAll] at planned
      split at planned
      · cases planned
        exact ⟨_, _, rfl⟩
      · cases planned
  | create | updateMany => cases single

end Request

/-! ## What requests log -/

/-- If no statement fails with an error of the kind itself, errors of that kind are the
reports that no row was affected. -/
theorem Run.Logs.notices_iff {run : Run α} {level : Level} {failures : List (String × Error)}
    (logs : run.Logs level failures)
    (otherKind : ∀ text error, (text, error) ∈ failures → error.kind ≠ .noRowsAffected) :
    run.notices.length ≤ 1 ∧ (run.notices.length = 1 ↔
      ∃ error, run.result = .error error ∧ error.kind = .noRowsAffected) := by
  rcases logs.noticed with ⟨none, passed⟩ | ⟨-, operation, statements, one, result⟩
  · rw [none]
    refine ⟨Nat.zero_le 1, iff_of_false Nat.zero_ne_one ?_⟩
    rintro ⟨error, fails, sameKind⟩
    obtain ⟨text, member⟩ := passed error fails sameKind
    exact otherKind text error member sameKind
  · rw [one]
    exact ⟨Nat.le_refl 1, iff_of_true rfl ⟨_, result, rfl⟩⟩

theorem Runner.kind_of_mem_failed (runner : Runner) {executor : Executor}
    (dependable : executor.FailsInExecution) {statements : List String} {text : String}
    {error : Error} (member : (text, error) ∈ runner.failed executor statements) :
    error.kind = .execution := by
  obtain ⟨failure, failed, same⟩ := List.mem_map.mp member
  obtain ⟨started, begun, fails⟩ := List.mem_filterMap.mp failed
  obtain ⟨-, rfl⟩ := Prod.mk.inj same
  have among : .error failure.error ∈ runner.outcomes executor statements := by
    rw [← Started.error_of_failure? fails]
    exact List.mem_map_of_mem begun
  exact runner.kind_of_mem_outcomes dependable among

namespace Session

section

variable (session : Session) (executor : Executor) (mapper : Mapper) (request : Request)

theorem perform_logs :
    (session.perform executor mapper request).Logs session.runner.level
      (session.runner.failed executor (session.perform executor mapper request).sent) := by
  cases planned : request.plan mapper.idAttribute with
  | error error =>
      rw [perform_of_refused planned]
      exact Run.logs_of_refused (Request.kind_of_refused planned)
  | ok plan =>
      rw [perform_of_planned planned]
      cases plan with
      | single statement read =>
          rw [runPlan, Run.sent_andThen, (session.runner.runOne_cases executor _).1]
          refine (session.runner.runOne_logs executor _).1.andThen fun response error fails => ?_
          rw [Request.kind_of_read planned fails]
          decide
      | bulk operation statements read =>
          refine (session.runner.runAll_logs executor operation _).andThen
            fun responses error fails => ?_
          cases fails

theorem perform_logs_of_single (single : request.bulk? = none) :
    (session.perform executor mapper request).sent.length ≤ 1 ∧
      (session.perform executor mapper request).warnings =
        session.runner.failed executor (session.perform executor mapper request).sent := by
  cases planned : request.plan mapper.idAttribute with
  | error error =>
      rw [perform_of_refused planned]
      exact ⟨Nat.zero_le 1, rfl⟩
  | ok plan =>
      obtain ⟨statement, read, rfl⟩ := Request.plan_of_single single planned
      rw [perform_of_planned planned, runPlan, Run.sent_andThen,
        (session.runner.runOne_cases executor _).1]
      exact ⟨Nat.le_refl 1, (session.runner.runOne_logs executor _).2⟩

def withDebug (debug : Bool) : Session :=
  { session with settings := session.settings.set (.debug debug) }

theorem perform_withDebug (debug : Bool) :
    (session.withDebug debug).perform executor mapper request =
      (session.perform executor mapper request).atLevel
        (if debug then .info else .debug) := by
  have sameTarget : (session.withDebug debug).target mapper = session.target mapper := rfl
  have sameRunner : (session.withDebug debug).runner =
    session.runner.atLevel (if debug then .info else .debug) := rfl
  rw [perform, perform, sameTarget]
  cases request.plan mapper.idAttribute with
  | error error => rfl
  | ok plan =>
      cases plan with
      | single statement read =>
          simp only [runPlan, sameRunner, Runner.runOne_atLevel]
          rfl
      | bulk operation statements read =>
          simp only [runPlan, sameRunner, Runner.runAll_atLevel]
          rfl

end

/-- A request announces each statement right before it sends it, at the level that the
settings ask for, and announces nothing else.  If it is not about several records, it
warns of the statement that has failed, if there is one; else it warns of some of the
statements that have failed, of each at most once, and of the one by which it fails
itself.  It logs that no row was affected exactly if it fails for that reason.  Whether
statements are logged prominently changes the level of the announcements only. -/
theorem request_logged (session : Session) (executor : Executor) (mapper : Mapper)
    (request : Request) {run : Run Answer}
    (performed : session.perform executor mapper request = run) :
    run.Logs (if session.settings.debug then .info else .debug)
        (session.runner.failed executor run.sent) ∧
      (request.bulk? = none → run.sent.length ≤ 1 ∧
        run.warnings = session.runner.failed executor run.sent) ∧
      (executor.FailsInExecution → run.notices.length ≤ 1 ∧
        (run.notices.length = 1 ↔
          ∃ error, run.result = .error error ∧ error.kind = .noRowsAffected)) ∧
      ∀ debug (other : Run Answer),
        (session.withDebug debug).perform executor mapper request = other →
          other.result = run.result ∧ other.sent = run.sent ∧
            other.trace =
              run.trace.map (Action.atLevel (if debug then .info else .debug)) := by
  subst performed
  have logs := session.perform_logs executor mapper request
  refine ⟨logs, session.perform_logs_of_single executor mapper request,
    fun dependable => logs.notices_iff fun text error member => ?_,
    fun debug other performed => ?_⟩
  · rw [session.runner.kind_of_mem_failed dependable member]
    decide
  · rw [← performed, perform_withDebug]
    exact ⟨rfl, Run.sent_atLevel _ _, rfl⟩

theorem lostDestroy_and_missedUpdate_logged :
    (∃ text error,
      (Session.perform { } Request.lostConnection Request.jobs (.destroy .null)).trace =
          [.log (.executing .debug text), .send text, .log (.failed text error)]) ∧
      (Session.perform { } Request.lostConnection Request.jobs (.destroy .null)).warnings =
        Runner.failed (Session.runner { }) Request.lostConnection
          (Session.perform { } Request.lostConnection Request.jobs (.destroy .null)).sent ∧
      Request.missedRow.FailsInExecution ∧
      (Session.perform { } Request.missedRow Request.jobs Request.fullUpdate).notices =
        [(.update, 2)] ∧
      (∃ error, (Session.perform { } Request.missedRow Request.jobs
          Request.fullUpdate).result = .error error ∧ error.kind = .noRowsAffected) ∧
      (Session.perform ⟨{ debug := true }, Mapper.quotedTable⟩ Request.missedRow
          Request.jobs Request.fullUpdate).sent =
        (Session.perform { } Request.missedRow Request.jobs Request.fullUpdate).sent := by
  have dependable : Request.missedRow.FailsInExecution := by
    intro index statement error fails
    unfold Request.missedRow at fails
    split at fails <;> cases fails
  have lost := request_logged { } Request.lostConnection Request.jobs (.destroy .null) rfl
  have missed := request_logged { } Request.missedRow Request.jobs Request.fullUpdate rfl
  have noticed : (Session.perform { } Request.missedRow Request.jobs
      Request.fullUpdate).notices = [(.update, 2)] := rfl
  refine ⟨⟨_, _, rfl⟩, (lost.2.1 rfl).2, dependable, noticed, ?_, ?_⟩
  · exact (missed.2.2.1 dependable).2.mp (by rw [noticed]; rfl)
  · exact (missed.2.2.2 true _ rfl).2.1

end Session

end JsonSql
