import Mathlib.Data.List.Perm.Subperm
import JsonSql.Execution

/-!
# Runs of statements

Each statement has one outcome: its reply, or the timeout.  Starting statements
goes through the whole list or ends at one that failed at once; in the end a run
gives all responses, or the failure of one of the statements that were sent, which
it has logged.  None of this depends on when the replies come in.
-/

namespace JsonSql.Runner

def startOf (runner : Runner) (executor : Executor) (index : Nat) (statement : String) :
    Started :=
  ⟨statement, (executor index statement).within runner.timeout⟩

def begun (runner : Runner) (executor : Executor) (index : Nat)
    (statements : List String) : List Started :=
  statements.mapIdx fun place => runner.startOf executor (index + place)

def outcomes (runner : Runner) (executor : Executor) (statements : List String) :
    List (Except Error Response) :=
  (runner.begun executor 0 statements).map fun started => started.reply.outcome

section

variable (runner : Runner) (executor : Executor)

@[simp] theorem begun_cons (index : Nat) (statement : String) (statements : List String) :
    runner.begun executor index (statement :: statements) =
      runner.startOf executor index statement ::
        runner.begun executor (index + 1) statements := by
  simp [begun, List.mapIdx_cons, Nat.add_assoc, Nat.add_comm 1]

theorem map_statement_begun (index : Nat) (statements : List String) :
    (runner.begun executor index statements).map Started.statement = statements := by
  induction statements generalizing index with
  | nil => rfl
  | cons statement statements ih => rw [begun_cons, List.map_cons, ih, startOf]

theorem length_outcomes (statements : List String) :
    (runner.outcomes executor statements).length = statements.length := by
  rw [outcomes, List.length_map, begun, List.length_mapIdx]

end

theorem Started.error_of_failure? {started : Started} {failure : Failure}
    (fails : started.failure? = some failure) :
    started.reply.outcome = .error failure.error := by
  unfold Started.failure? at fails
  split at fails
  · cases fails
  · rename_i error outcome
    obtain rfl := Option.some.inj fails
    exact outcome

theorem Started.response_of_failure? {started : Started}
    (succeeds : started.failure? = none) :
    ∃ response, started.reply.outcome = .ok response := by
  unfold Started.failure? at succeeds
  split at succeeds
  · rename_i response outcome
    exact ⟨response, outcome⟩
  · cases succeeds

theorem filterMap_failureAtOnce? (started : List Started) :
    started.filterMap Started.failureAtOnce? =
      (started.filterMap Started.failure?).filter (·.time == 0) := by
  rw [List.filter_filterMap]
  rfl

@[simp] theorem Failure.sent?_report (failure : Failure) : failure.report.sent? = none := rfl

@[simp] theorem sent_start (runner : Runner) (statement : String) :
    (runner.start statement).filterMap Action.sent? = [statement] := rfl

@[simp] theorem sent_reports (failures : List Failure) :
    (failures.map Failure.report).filterMap Action.sent? = [] := by
  simp [List.filterMap_map, Function.comp_def]

/-- What the start of one statement leaves in a trace. -/
def opening (runner : Runner) (started : Started) : List Action :=
  runner.start started.statement ++ started.failureAtOnce?.toList.map Failure.report

def openings (runner : Runner) (started : List Started) : List Action :=
  started.flatMap runner.opening

theorem sent_openings (runner : Runner) (started : List Started) :
    (runner.openings started).filterMap Action.sent? = started.map Started.statement := by
  induction started with
  | nil => rfl
  | cons one started ih =>
      rw [openings] at ih
      simp [openings, opening, ih]

theorem sent_of_openings {runner : Runner} {run : Run α} {reached : List Started}
    {tail : List Action} (trace : run.trace = runner.openings reached ++ tail)
    (silent : tail.filterMap Action.sent? = []) :
    run.sent = reached.map Started.statement := by
  rw [Run.sent, trace, List.filterMap_append, sent_openings, silent, List.append_nil]

/-! ## Starting -/

section

variable (runner : Runner) (executor : Executor)

theorem startAll_cons (precedence : Precedence) (index : Nat) (waiting : Bool)
    (statement : String) (statements : List String) :
    runner.startAll executor precedence index waiting (statement :: statements) =
      match (runner.startOf executor index statement).failureAtOnce?, waiting with
      | some failure, false =>
          ⟨runner.start statement ++ [failure.report], .error failure.error⟩
      | atOnce, _ =>
          let rest := runner.startAll executor precedence (index + 1)
            (waiting || precedence.awaits (runner.startOf executor index statement))
            statements
          ⟨runner.start statement ++ atOnce.toList.map Failure.report ++ rest.trace,
            rest.result.map (runner.startOf executor index statement :: ·)⟩ := rfl

/-- The start of a list ends with a statement that fails at once while no other is waited
for, or goes on to the next one. -/
theorem startAll_cons_cases (precedence : Precedence) (index : Nat) (waiting : Bool)
    (statement : String) (statements : List String) :
    (∃ failure, (runner.startOf executor index statement).failureAtOnce? = some failure ∧
      waiting = false ∧
      runner.startAll executor precedence index waiting (statement :: statements) =
        ⟨runner.opening (runner.startOf executor index statement),
          .error failure.error⟩) ∨
    ∃ waits, waits =
        (waiting || precedence.awaits (runner.startOf executor index statement)) ∧
      ((runner.startOf executor index statement).failureAtOnce? = none ∨ waiting = true) ∧
      runner.startAll executor precedence index waiting (statement :: statements) =
        ⟨runner.opening (runner.startOf executor index statement) ++
            (runner.startAll executor precedence (index + 1) waits statements).trace,
          (runner.startAll executor precedence (index + 1) waits statements).result.map
            (runner.startOf executor index statement :: ·)⟩ := by
  rw [startAll_cons, opening]
  cases atOnce : (runner.startOf executor index statement).failureAtOnce? with
  | none => exact .inr ⟨_, rfl, .inl rfl, rfl⟩
  | some failure =>
      cases waiting with
      | false => exact .inl ⟨failure, rfl, rfl, rfl⟩
      | true => exact .inr ⟨_, rfl, .inr rfl, rfl⟩

/-- The statements reached are the first ones of the list: all of it, or up to one that
failed at once. -/
theorem startAll_trace (precedence : Precedence) (index : Nat) (waiting : Bool)
    (statements : List String) :
    ∃ reached rest, runner.begun executor index statements = reached ++ rest ∧
      (runner.startAll executor precedence index waiting statements).trace =
        runner.openings reached ∧
      ((rest = [] ∧ (runner.startAll executor precedence index waiting statements).result =
          .ok reached) ∨
        ∃ failure ∈ reached.filterMap Started.failureAtOnce?,
          (runner.startAll executor precedence index waiting statements).result =
            .error failure.error) := by
  induction statements generalizing index waiting with
  | nil => exact ⟨[], [], rfl, rfl, .inl ⟨rfl, rfl⟩⟩
  | cons statement statements ih =>
      rw [begun_cons]
      rcases runner.startAll_cons_cases executor precedence index waiting statement
        statements with ⟨failure, atOnce, -, run⟩ | ⟨waits, -, -, run⟩
      · rw [run]
        exact ⟨[runner.startOf executor index statement], _, rfl, (List.append_nil _).symm,
          .inr ⟨failure, by simp [atOnce], rfl⟩⟩
      · obtain ⟨reached, rest, begun, trace, result⟩ := ih (index + 1) waits
        rw [run]
        refine ⟨runner.startOf executor index statement :: reached, rest,
          by rw [begun, List.cons_append], ?_, ?_⟩
        · rw [trace]
          rfl
        · rcases result with ⟨done, result⟩ | ⟨failure, member, result⟩
          · refine .inl ⟨done, ?_⟩
            rw [result]
            rfl
          · refine .inr ⟨failure, ?_, ?_⟩
            · exact ((List.sublist_cons_self _ reached).filterMap _).subset member
            · rw [result]
              rfl

theorem noFailureAtOnce_of_started {index : Nat} {statements : List String}
    {started : List Started}
    (all : (runner.startAll executor .byTime index false statements).result = .ok started) :
    started.filterMap Started.failureAtOnce? = [] := by
  induction statements generalizing index started with
  | nil =>
      cases all
      rfl
  | cons statement statements ih =>
      rcases runner.startAll_cons_cases executor .byTime index false statement
        statements with ⟨failure, -, -, run⟩ | ⟨waits, rfl, later | waiting, run⟩
      · rw [run] at all
        cases all
      · rw [run] at all
        cases result : (runner.startAll executor .byTime (index + 1) (false ||
            Precedence.awaits .byTime (runner.startOf executor index statement))
            statements).result with
        | error error =>
            rw [result] at all
            cases all
        | ok others =>
            rw [result] at all
            obtain rfl := Except.ok.inj all
            rw [List.filterMap_cons_none later, ih result]
      · -- A failure at once goes by only while another statement is waited for.
        cases waiting

end

/-! ## How a run ends -/

theorem firstFailure?_cases (started : List Started) :
    (firstFailure? started = none ∧ started.filterMap Started.failure? = []) ∨
    ∃ failure ∈ started.filterMap Started.failure?, firstFailure? started = some failure := by
  induction started with
  | nil => exact .inl ⟨rfl, rfl⟩
  | cons one rest ih =>
      cases here : one.failure? with
      | none =>
          rw [List.filterMap_cons_none here]
          simpa [firstFailure?, here] using ih
      | some failure =>
          rw [List.filterMap_cons_some here]
          refine .inr ?_
          rcases ih with ⟨first, -⟩ | ⟨later, member, first⟩
          · exact ⟨failure, List.mem_cons_self, by simp [firstFailure?, here, first]⟩
          · by_cases early : failure.time ≤ later.time
            · exact ⟨failure, List.mem_cons_self,
                by simp [firstFailure?, here, first, early]⟩
            · exact ⟨later, List.mem_cons_of_mem _ member,
                by simp [firstFailure?, here, first, early]⟩

theorem noFailure_of_breakdownByPlace? {due : Nat} {started : List Started}
    (whole : breakdownByPlace? due started = none) :
    started.filterMap Started.failure? = [] := by
  induction started generalizing due with
  | nil => rfl
  | cons one rest ih =>
      rw [breakdownByPlace?] at whole
      cases here : one.failure? with
      | none =>
          rw [here] at whole
          rw [List.filterMap_cons_none here, ih whole]
      | some failure =>
          rw [here] at whole
          cases whole

theorem noFailure_of_breakdown? {started : List Started} {precedence : Precedence}
    (whole : breakdown? started precedence = none) :
    started.filterMap Started.failure? = [] := by
  cases precedence with
  | byPlace => exact noFailure_of_breakdownByPlace? whole
  | byTime =>
      rcases firstFailure?_cases started with ⟨-, noFailure⟩ | ⟨failure, -, first⟩
      · exact noFailure
      · rw [breakdown?, breakdownByTime?, first] at whole
        cases whole

theorem breakdownByPlace?_reports {due : Nat} {started : List Started}
    {breakdown : Breakdown} (found : breakdownByPlace? due started = some breakdown) :
    ∃ chosen, List.Sublist chosen (started.filterMap Started.failure?) ∧
      breakdown.decisive ∈ chosen ∧
      breakdown.reports.Perm (chosen.filter (0 < ·.time)) := by
  induction started generalizing due with
  | nil => cases found
  | cons one rest ih =>
      rw [breakdownByPlace?] at found
      cases fails : one.failure? with
      | none =>
          rw [fails] at found
          rw [List.filterMap_cons_none fails]
          exact ih found
      | some failure =>
          rw [fails] at found
          obtain rfl := Option.some.inj found
          rw [List.filterMap_cons_some fails]
          refine ⟨_, List.Sublist.cons_cons failure List.filter_sublist,
            List.mem_cons_self, List.mergeSort_perm _ _⟩

/-- No failure is logged twice, at the start and after it, and the one that ends the run is
logged. -/
theorem breakdown?_reports {started : List Started} {precedence : Precedence}
    {breakdown : Breakdown} (found : breakdown? started precedence = some breakdown)
    (early : precedence = .byTime → started.filterMap Started.failureAtOnce? = []) :
    (started.filterMap Started.failureAtOnce? ++ breakdown.reports).Subperm
        (started.filterMap Started.failure?) ∧
      breakdown.decisive ∈
        started.filterMap Started.failureAtOnce? ++ breakdown.reports := by
  cases precedence with
  | byTime =>
      rw [early rfl, List.nil_append]
      rcases firstFailure?_cases started with ⟨first, -⟩ | ⟨failure, member, first⟩
      · rw [breakdown?, breakdownByTime?, first] at found
        cases found
      · rw [breakdown?, breakdownByTime?, first] at found
        obtain rfl := Option.some.inj found
        exact ⟨List.singleton_subperm_iff.mpr member, List.mem_singleton_self _⟩
  | byPlace =>
      -- A failure at once has been logged at the start, each other one is logged after it.
      obtain ⟨chosen, part, decisive, reports⟩ := breakdownByPlace?_reports found
      have later : breakdown.reports.Subperm
          ((started.filterMap Started.failure?).filter fun failure =>
            !(failure.time == 0)) := by
        have positive : (fun failure : Failure => decide (0 < failure.time)) =
            fun failure => !(failure.time == 0) := by
          funext failure
          rw [Bool.eq_iff_iff]
          simp [Nat.pos_iff_ne_zero]
        rw [positive] at reports
        exact reports.subperm.trans (part.filter _).subperm
      rw [filterMap_failureAtOnce?]
      constructor
      · exact ((List.subperm_append_left _).mpr later).trans
          (List.filter_append_perm _ _).subperm
      · rw [List.mem_append, List.mem_filter, reports.mem_iff, List.mem_filter]
        by_cases atOnce : breakdown.decisive.time = 0
        · exact .inl ⟨part.subset decisive, by simp [atOnce]⟩
        · exact .inr ⟨decisive, by simp [Nat.pos_of_ne_zero atOnce]⟩

theorem not_succeed_of_error {outcomes : List (Except Error Response)} {error : Error}
    (member : .error error ∈ outcomes) :
    ¬ ∀ outcome ∈ outcomes, ∃ response, outcome = .ok response := by
  intro succeed
  obtain ⟨response, answers⟩ := succeed _ member
  cases answers

theorem outcomes_of_noFailure {started : List Started}
    (noFailure : started.filterMap Started.failure? = []) :
    (started.map fun one => one.reply.outcome) =
      (started.filterMap Started.response?).map .ok := by
  induction started with
  | nil => rfl
  | cons one rest ih =>
      rw [List.filterMap_eq_nil_iff, List.forall_mem_cons, ← List.filterMap_eq_nil_iff]
        at noFailure
      obtain ⟨response, outcome⟩ := Started.response_of_failure? noFailure.1
      have first : one.response? = some response := by
        rw [Started.response?, outcome]
        rfl
      rw [List.map_cons, outcome, List.filterMap_cons_some first, List.map_cons,
        ih noFailure.2]

section

variable (runner : Runner) (executor : Executor) (operation : BulkOperation)
  (statements : List String)

/-- A run ends with a failure that it has logged, or no statement fails and the run is
answered unless one has touched no row. -/
theorem runAll_trace :
    ∃ reached rest, runner.begun executor 0 statements = reached ++ rest ∧
      ((∃ reports failure, (reached.filterMap Started.failureAtOnce? ++ reports).Subperm
            (reached.filterMap Started.failure?) ∧
          failure ∈ reached.filterMap Started.failureAtOnce? ++ reports ∧
          runner.runAll executor operation statements =
            ⟨runner.openings reached ++ reports.map Failure.report, .error failure.error⟩) ∨
        rest = [] ∧ reached.filterMap Started.failure? = [] ∧
          runner.runAll executor operation statements =
            if (reached.filterMap Started.response?).any fun response =>
                response.affectedCount == 0 then
              ⟨runner.openings reached ++
                  [.log (.noRowsAffected operation statements.length)],
                .error (.noRowsAffected operation statements)⟩
            else ⟨runner.openings reached, .ok (reached.filterMap Started.response?)⟩) := by
  obtain ⟨reached, rest, begun, trace, result⟩ := runner.startAll_trace executor
    (.ofSize statements.length) 0 false statements
  refine ⟨reached, rest, begun, ?_⟩
  rcases result with ⟨done, all⟩ | ⟨failure, member, stopped⟩
  · cases found : breakdown? reached (.ofSize statements.length) with
    | none =>
        refine .inr ⟨done, noFailure_of_breakdown? found, ?_⟩
        simp only [runAll, all, found, trace]
    | some breakdown =>
        have early : Precedence.ofSize statements.length = .byTime →
            reached.filterMap Started.failureAtOnce? = [] := by
          intro byTime
          rw [byTime] at all
          exact runner.noFailureAtOnce_of_started executor all
        obtain ⟨once, decisive⟩ := breakdown?_reports found early
        refine .inl ⟨breakdown.reports, breakdown.decisive, once, decisive, ?_⟩
        simp only [runAll, all, found, trace]
  · refine .inl ⟨[], failure, ?_, ?_, ?_⟩
    · rw [List.append_nil, filterMap_failureAtOnce?]
      exact List.filter_sublist.subperm
    · rwa [List.append_nil]
    · simp only [runAll, stopped, trace, List.map_nil, List.append_nil]

/-- A run sends all statements and depends on their responses only, or it fails as
one of the statements that it has sent. -/
theorem runAll_cases :
    (∃ responses, runner.outcomes executor statements = responses.map .ok ∧
      (runner.runAll executor operation statements).sent = statements ∧
      (runner.runAll executor operation statements).result =
        if responses.any fun response => response.affectedCount == 0 then
          .error (.noRowsAffected operation statements)
        else .ok responses) ∨
    ∃ place error,
      (runner.outcomes executor statements)[place]? = some (.error error) ∧
      (runner.runAll executor operation statements).result = .error error ∧
      (runner.runAll executor operation statements).sent <+: statements ∧
      place < (runner.runAll executor operation statements).sent.length := by
  obtain ⟨reached, rest, begun, ends⟩ := runner.runAll_trace executor operation statements
  have texts : reached.map Started.statement ++ rest.map Started.statement = statements := by
    rw [← List.map_append, ← begun, map_statement_begun]
  rcases ends with ⟨reports, failure, once, member, run⟩ | ⟨rfl, noFailure, run⟩
  · obtain ⟨one, started, fails⟩ := List.mem_filterMap.mp (once.subset member)
    obtain ⟨place, here⟩ := List.mem_iff_getElem?.mp started
    obtain ⟨valid, -⟩ := List.getElem?_eq_some_iff.mp here
    have sent : (runner.runAll executor operation statements).sent =
        reached.map Started.statement := by
      rw [run]
      exact sent_of_openings rfl (sent_reports _)
    refine .inr ⟨place, failure.error, ?_, by rw [run], ?_, ?_⟩
    · rw [outcomes, begun, List.getElem?_map, List.getElem?_append_left valid, here,
        Option.map_some, Started.error_of_failure? fails]
    · rw [sent]
      exact ⟨_, texts⟩
    · rwa [sent, List.length_map]
  · rw [List.append_nil] at begun
    rw [List.map_nil, List.append_nil] at texts
    refine .inl ⟨_, by rw [outcomes, begun, outcomes_of_noFailure noFailure], ?_, ?_⟩
    · rw [run, ← texts]
      split
      · exact sent_of_openings rfl rfl
      · exact runner.sent_openings reached
    · rw [run]
      split <;> rfl

end

end JsonSql.Runner
