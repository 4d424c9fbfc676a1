import JsonSql.Proofs.Runs

/-!
# Traces of runs

Each statement is announced by an event right before it is sent, and no event announces
one that is not sent.  Failures that are logged belong to statements that were sent, and
each of these is logged once at most; if one of the statements fails, the failure that
ends the run is among those logged.
-/

namespace JsonSql

/-- The trace is made of statements, each right behind its announcement at the level, and
of other events. -/
inductive Announced (level : Level) : List Action → Prop where
  | nil : Announced level []
  | statement {text : String} {rest : List Action} : Announced level rest →
      Announced level (.log (.executing level text) :: .send text :: rest)
  | warning {text : String} {error : Error} {rest : List Action} : Announced level rest →
      Announced level (.log (.failed text error) :: rest)
  | notice {operation : BulkOperation} {statements : Nat} {rest : List Action} :
      Announced level rest → Announced level (.log (.noRowsAffected operation statements) :: rest)

theorem Announced.append {level : Level} {first second : List Action}
    (announced : Announced level first) (alsoAnnounced : Announced level second) :
    Announced level (first ++ second) := by
  induction announced with
  | nil => exact alsoAnnounced
  | statement _ ih => exact .statement ih
  | warning _ ih => exact .warning ih
  | notice _ ih => exact .notice ih

def Action.warning? : Action → Option (String × Error)
  | log (.failed statement error) => some (statement, error)
  | _ => none

def Action.notice? : Action → Option (BulkOperation × Nat)
  | log (.noRowsAffected operation statements) => some (operation, statements)
  | _ => none

def Run.warnings (run : Run α) : List (String × Error) :=
  run.trace.filterMap Action.warning?

def Run.notices (run : Run α) : List (BulkOperation × Nat) :=
  run.trace.filterMap Action.notice?

namespace Runner

def Failure.warning (failure : Failure) : String × Error :=
  (failure.statement, failure.error)

@[simp] theorem Failure.warning?_report (failure : Failure) :
    failure.report.warning? = some failure.warning := rfl

@[simp] theorem Failure.notice?_report (failure : Failure) :
    failure.report.notice? = none := rfl

section

variable (runner : Runner)

@[simp] theorem warnings_start (statement : String) :
    (runner.start statement).filterMap Action.warning? = [] := rfl

@[simp] theorem notices_start (statement : String) :
    (runner.start statement).filterMap Action.notice? = [] := rfl

theorem announced_start (statement : String) :
    Announced runner.level (runner.start statement) :=
  .statement .nil

end

@[simp] theorem warnings_reports (failures : List Failure) :
    (failures.map Failure.report).filterMap Action.warning? =
      failures.map Failure.warning := by
  simp [List.filterMap_map, Function.comp_def]

@[simp] theorem notices_reports (failures : List Failure) :
    (failures.map Failure.report).filterMap Action.notice? = [] := by
  simp [List.filterMap_map, Function.comp_def]

theorem announced_reports (level : Level) (failures : List Failure) :
    Announced level (failures.map Failure.report) := by
  induction failures with
  | nil => exact .nil
  | cons failure failures ih => exact .warning ih

section

variable (runner : Runner) (started : List Started)

theorem announced_openings : Announced runner.level (runner.openings started) := by
  induction started with
  | nil => exact .nil
  | cons one started ih =>
      exact ((runner.announced_start one.statement).append (announced_reports _ _)).append ih

theorem warnings_openings :
    (runner.openings started).filterMap Action.warning? =
      (started.filterMap Started.failureAtOnce?).map Failure.warning := by
  induction started with
  | nil => rfl
  | cons one started ih =>
      rw [openings] at ih
      cases atOnce : one.failureAtOnce? <;> simp [openings, opening, atOnce, ih]

theorem notices_openings : (runner.openings started).filterMap Action.notice? = [] := by
  induction started with
  | nil => rfl
  | cons one started ih =>
      rw [openings] at ih
      simp [openings, opening, ih]

end

end Runner

/-- What a run logs about its statements, given the failures of those that it has sent.
Each statement is announced; warnings are about failed statements, each of which has one at
most, and if there is such a statement the run fails as one with a warning.  There is a
notice exactly if the run itself reports that no row was affected, once. -/
structure Run.Logs (run : Run α) (level : Level) (failures : List (String × Error)) :
    Prop where
  announced : Announced level run.trace
  warned : run.warnings.Subperm failures
  decided : failures ≠ [] →
    ∃ text error, (text, error) ∈ run.warnings ∧ run.result = .error error
  noticed : (run.notices = [] ∧ ∀ error, run.result = .error error →
      error.kind = .noRowsAffected → ∃ text, (text, error) ∈ failures) ∨
    (failures = [] ∧ ∃ operation statements,
      run.notices = [(operation, statements.length)] ∧
        run.result = .error (.noRowsAffected operation statements))

namespace Run

variable {run : Run α} {level : Level} {failures : List (String × Error)}

theorem Logs.andThen (logs : run.Logs level failures) {next : α → Except Error β}
    (otherKind : ∀ value error, next value = .error error → error.kind ≠ .noRowsAffected) :
    (run.andThen next).Logs level failures where
  announced := logs.announced
  warned := logs.warned
  decided failed := by
    obtain ⟨text, error, member, result⟩ := logs.decided failed
    refine ⟨text, error, member, ?_⟩
    rw [Run.andThen, result]
    rfl
  noticed := by
    rcases logs.noticed with ⟨none, passed⟩ | ⟨noFailure, operation, statements, one, result⟩
    · refine .inl ⟨none, fun error fails sameKind => ?_⟩
      cases own : run.result with
      | error cause =>
          rw [Run.andThen, own] at fails
          obtain rfl : cause = error := Except.error.inj fails
          exact passed cause own sameKind
      | ok value =>
          rw [Run.andThen, own] at fails
          exact absurd sameKind (otherKind value error fails)
    · refine .inr ⟨noFailure, operation, statements, one, ?_⟩
      rw [Run.andThen, result]
      rfl

theorem logs_of_refused {error : Error} (otherKind : error.kind ≠ .noRowsAffected) :
    (⟨[], .error error⟩ : Run α).Logs level [] where
  announced := .nil
  warned := List.Subperm.refl _
  decided failed := absurd rfl failed
  noticed := by
    refine .inl ⟨rfl, fun other fails sameKind => ?_⟩
    obtain rfl : error = other := Except.error.inj fails
    exact absurd sameKind otherKind

end Run

namespace Runner

def failed (runner : Runner) (executor : Executor) (statements : List String) :
    List (String × Error) :=
  ((runner.begun executor 0 statements).filterMap Started.failure?).map Failure.warning

section

variable {runner : Runner} {run : Run α} {reached : List Started}

theorem logs_of_reports {reports : List Failure} {failure : Failure}
    (trace : run.trace = runner.openings reached ++ reports.map Failure.report)
    (once : (reached.filterMap Started.failureAtOnce? ++ reports).Subperm
      (reached.filterMap Started.failure?))
    (member : failure ∈ reached.filterMap Started.failureAtOnce? ++ reports)
    (result : run.result = .error failure.error) :
    run.Logs runner.level
      ((reached.filterMap Started.failure?).map Failure.warning) := by
  have warnings : run.warnings =
      (reached.filterMap Started.failureAtOnce? ++ reports).map Failure.warning := by
    rw [Run.warnings, trace, List.filterMap_append, warnings_openings, warnings_reports,
      List.map_append]
  have notices : run.notices = [] := by
    rw [Run.notices, trace, List.filterMap_append, notices_openings, notices_reports,
      List.append_nil]
  refine ⟨?_, ?_, fun _ => ?_, .inl ⟨notices, fun error fails _ => ?_⟩⟩
  · rw [trace]
    exact (runner.announced_openings reached).append (announced_reports _ _)
  · obtain ⟨part, perm, sublist⟩ := once
    rw [warnings]
    exact ⟨part.map Failure.warning, perm.map _, sublist.map _⟩
  · refine ⟨failure.statement, failure.error, ?_, result⟩
    rw [warnings]
    exact List.mem_map_of_mem member
  · rw [result] at fails
    obtain rfl := Except.error.inj fails
    exact ⟨failure.statement, List.mem_map_of_mem (once.subset member)⟩

theorem warnings_of_no_failure (runner : Runner)
    (noFailure : reached.filterMap Started.failure? = []) :
    (runner.openings reached).filterMap Action.warning? = [] := by
  rw [warnings_openings, filterMap_failureAtOnce?, noFailure]
  rfl

theorem logs_of_answers {value : α} (noFailure : reached.filterMap Started.failure? = [])
    (trace : run.trace = runner.openings reached) (result : run.result = .ok value) :
    run.Logs runner.level
      ((reached.filterMap Started.failure?).map Failure.warning) := by
  have warnings : run.warnings = [] := by
    rw [Run.warnings, trace, runner.warnings_of_no_failure noFailure]
  have notices : run.notices = [] := by
    rw [Run.notices, trace, notices_openings]
  rw [noFailure, List.map_nil]
  refine ⟨?_, ?_, fun failed => absurd rfl failed, .inl ⟨notices, fun error fails => ?_⟩⟩
  · rw [trace]
    exact runner.announced_openings reached
  · exact warnings ▸ List.nil_subperm
  · rw [result] at fails
    cases fails

theorem logs_of_untouched {operation : BulkOperation} {statements : List String}
    (noFailure : reached.filterMap Started.failure? = [])
    (trace : run.trace = runner.openings reached ++
      [.log (.noRowsAffected operation statements.length)])
    (result : run.result = .error (.noRowsAffected operation statements)) :
    run.Logs runner.level
      ((reached.filterMap Started.failure?).map Failure.warning) := by
  have warnings : run.warnings = [] := by
    rw [Run.warnings, trace, List.filterMap_append, runner.warnings_of_no_failure noFailure]
    rfl
  have notices : run.notices = [(operation, statements.length)] := by
    rw [Run.notices, trace, List.filterMap_append, notices_openings]
    rfl
  rw [noFailure, List.map_nil]
  refine ⟨?_, ?_, fun failed => absurd rfl failed,
    .inr ⟨rfl, operation, statements, notices, result⟩⟩
  · rw [trace]
    exact (runner.announced_openings reached).append (.notice .nil)
  · exact warnings ▸ List.nil_subperm

end

section

variable (runner : Runner) (executor : Executor)

theorem begun_of_reached {index : Nat} {statements : List String}
    {reached rest : List Started}
    (begun : runner.begun executor index statements = reached ++ rest) :
    runner.begun executor index (reached.map Started.statement) = reached := by
  induction reached generalizing index statements with
  | nil => rfl
  | cons one reached ih =>
      cases statements with
      | nil => cases begun
      | cons statement statements =>
          rw [begun_cons, List.cons_append] at begun
          obtain ⟨rfl, later⟩ := List.cons.inj begun
          rw [List.map_cons, begun_cons, ih later]
          rfl

theorem failed_of_begun {statements : List String} {reached rest : List Started}
    (begun : runner.begun executor 0 statements = reached ++ rest) :
    runner.failed executor (reached.map Started.statement) =
      (reached.filterMap Started.failure?).map Failure.warning := by
  rw [failed, runner.begun_of_reached executor begun]

theorem failed_singleton (statement : String) :
    runner.failed executor [statement] =
      match ((executor 0 statement).within runner.timeout).outcome with
      | .ok _ => []
      | .error error => [(statement, error)] := by
  cases outcome : ((executor 0 statement).within runner.timeout).outcome with
  | ok response =>
      have succeeds : (runner.startOf executor 0 statement).failure? = none := by
        simp only [Started.failure?, startOf, outcome]
      rw [failed, begun_cons, List.filterMap_cons_none succeeds]
      rfl
  | error error =>
      have fails : (runner.startOf executor 0 statement).failure? =
          some ⟨(runner.startOf executor 0 statement).reply.delay, statement, error⟩ := by
        simp only [Started.failure?, startOf, outcome]
      rw [failed, begun_cons, List.filterMap_cons_some fails]
      rfl

theorem runOne_logs (statement : String) :
    (runner.runOne executor statement).Logs runner.level
        (runner.failed executor [statement]) ∧
      (runner.runOne executor statement).warnings = runner.failed executor [statement] := by
  rw [failed_singleton, runOne]
  cases ((executor 0 statement).within runner.timeout).outcome with
  | ok response =>
      refine ⟨⟨runner.announced_start statement, List.Subperm.refl _,
        fun failed => absurd rfl failed, .inl ⟨rfl, ?_⟩⟩, rfl⟩
      intro error fails
      cases fails
  | error error =>
      refine ⟨⟨(runner.announced_start statement).append (.warning .nil),
        List.Subperm.refl _, fun _ => ⟨statement, error, List.mem_singleton_self _, rfl⟩,
        .inl ⟨rfl, ?_⟩⟩, rfl⟩
      intro cause fails _
      obtain rfl := Except.error.inj fails
      exact ⟨statement, List.mem_singleton_self _⟩

theorem runAll_logs (operation : BulkOperation) (statements : List String) :
    (runner.runAll executor operation statements).Logs runner.level
      (runner.failed executor (runner.runAll executor operation statements).sent) := by
  obtain ⟨reached, rest, begun, ends⟩ := runner.runAll_trace executor operation statements
  have ofReached := runner.failed_of_begun executor begun
  rcases ends with ⟨reports, failure, once, member, run⟩ | ⟨-, noFailure, run⟩
  · rw [run, sent_of_openings rfl (sent_reports _), ofReached]
    exact logs_of_reports rfl once member rfl
  · rw [run]
    split
    · rw [sent_of_openings rfl rfl, ofReached]
      exact logs_of_untouched noFailure rfl rfl
    · rw [Run.sent, sent_openings, ofReached]
      exact logs_of_answers noFailure rfl rfl

end

end Runner

end JsonSql
