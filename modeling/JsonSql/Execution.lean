import JsonSql.Error

/-!
# Execution of statements

Statements run against an executor on a clock of milliseconds.  A reply that
comes after the timeout is lost and the statement fails at the timeout.  Bulk
statements start together in their order, and a failure at that very moment
keeps the later ones from starting.

Few statements end with the failure that comes in first, and of several at one
moment with the one that was started first.  Of many statements, the failing
one that was started first decides as soon as all before it are done; the
failures that come in until then are logged.
-/

namespace JsonSql

inductive Response where
  | rows (list : List Record)
  | affected (count : Nat)
  deriving Repr, Inhabited

namespace Response

def rowList : Response → List Record
  | .rows list => list
  | .affected _ => []

def affectedCount : Response → Nat
  | .rows list => list.length
  | .affected count => count

end Response

structure Reply where
  delay : Nat
  outcome : Except Error Response

/-- The reply to the statement that is started after so many others. -/
abbrev Executor := Nat → String → Reply

def Executor.ofScript (script : List Reply) : Executor :=
  fun index _ => script.getD index ⟨0, .ok (.affected 1)⟩

def Reply.within (timeout : Nat) (reply : Reply) : Reply :=
  if reply.delay ≤ timeout then reply
  else ⟨timeout, .error (.timedOut timeout)⟩

inductive Level where
  | debug
  | info
  deriving DecidableEq, Repr

inductive Event where
  | executing (level : Level) (statement : String)
  | failed (statement : String) (error : Error)
  | noRowsAffected (operation : BulkOperation) (statements : Nat)
  deriving Repr

inductive Action where
  | log (event : Event)
  | send (statement : String)
  deriving Repr

def Action.sent? : Action → Option String
  | log _ => none
  | send statement => some statement

def Action.logged? : Action → Option Event
  | log event => some event
  | send _ => none

@[simp] theorem Action.sent?_log (event : Event) : (log event).sent? = none := rfl

@[simp] theorem Action.sent?_send (statement : String) :
    (send statement).sent? = some statement := rfl

@[simp] theorem Action.logged?_log (event : Event) :
    (log event).logged? = some event := rfl

@[simp] theorem Action.logged?_send (statement : String) :
    (send statement).logged? = none := rfl

structure Run (α : Type) where
  trace : List Action
  result : Except Error α

namespace Run

def sent (run : Run α) : List String := run.trace.filterMap Action.sent?

def logged (run : Run α) : List Event := run.trace.filterMap Action.logged?

def andThen (run : Run α) (next : α → Except Error β) : Run β :=
  ⟨run.trace, run.result.bind next⟩

end Run

/-! ## Running statements -/

structure Runner where
  timeout : Nat
  level : Level
  deriving DecidableEq, Repr

namespace Runner

def start (runner : Runner) (statement : String) : List Action :=
  [.log (.executing runner.level statement), .send statement]

def runOne (runner : Runner) (executor : Executor) (statement : String) :
    Run Response :=
  match ((executor 0 statement).within runner.timeout).outcome with
  | .ok response => ⟨runner.start statement, .ok response⟩
  | .error error =>
      ⟨runner.start statement ++ [.log (.failed statement error)], .error error⟩

structure Started where
  statement : String
  reply : Reply

structure Failure where
  time : Nat
  statement : String
  error : Error

def Failure.report (failure : Failure) : Action :=
  .log (.failed failure.statement failure.error)

def Started.failure? (started : Started) : Option Failure :=
  match started.reply.outcome with
  | .ok _ => none
  | .error error => some ⟨started.reply.delay, started.statement, error⟩

def Started.failureAtOnce? (started : Started) : Option Failure :=
  started.failure?.filter (·.time == 0)

def Started.response? (started : Started) : Option Response :=
  started.reply.outcome.toOption

/-- Which of several failures counts: the first to come in or the first started. -/
inductive Precedence where
  | byTime
  | byPlace
  deriving DecidableEq, Repr

def Precedence.ofSize (statements : Nat) : Precedence :=
  if statements ≤ 30 then .byTime else .byPlace

def Precedence.awaits (precedence : Precedence) (started : Started) : Bool :=
  precedence == .byPlace && started.reply.delay != 0

/-- Starts statements one after another; `index` have been started before, and
`waiting` says that a failure has to wait for one of them. -/
def startAll (runner : Runner) (executor : Executor) (precedence : Precedence) :
    (index : Nat) → (waiting : Bool) → List String → Run (List Started)
  | _, _, [] => ⟨[], .ok []⟩
  | index, waiting, statement :: statements =>
      let started : Started :=
        ⟨statement, (executor index statement).within runner.timeout⟩
      match started.failureAtOnce?, waiting with
      | some failure, false =>
          ⟨runner.start statement ++ [failure.report], .error failure.error⟩
      | atOnce, _ =>
          let rest := startAll runner executor precedence (index + 1)
            (waiting || precedence.awaits started) statements
          ⟨runner.start statement ++ atOnce.toList.map Failure.report ++ rest.trace,
            rest.result.map (started :: ·)⟩

def firstFailure? : List Started → Option Failure
  | [] => none
  | started :: rest =>
      match started.failure?, firstFailure? rest with
      | some failure, some later =>
          some (if failure.time ≤ later.time then failure else later)
      | some failure, none => some failure
      | none, later => later

/-- The failure that ends a run, and the failures after the start until then. -/
structure Breakdown where
  decisive : Failure
  reports : List Failure

def breakdownByTime? (started : List Started) : Option Breakdown :=
  (firstFailure? started).map fun failure => ⟨failure, [failure]⟩

/-- The failing statement started first decides, when it and all before it are
done.  The statements before the list are done at the time `due`. -/
def breakdownByPlace? (due : Nat) : List Started → Option Breakdown
  | [] => none
  | started :: rest =>
      let due := max due started.reply.delay
      match started.failure? with
      | none => breakdownByPlace? due rest
      | some failure =>
          let others := (rest.filterMap Started.failure?).filter (·.time < due)
          let reports := (failure :: others).filter (0 < ·.time)
          some ⟨failure, reports.mergeSort fun first second => first.time ≤ second.time⟩

def breakdown? (started : List Started) : Precedence → Option Breakdown
  | .byTime => breakdownByTime? started
  | .byPlace => breakdownByPlace? 0 started

def runAll (runner : Runner) (executor : Executor)
    (operation : BulkOperation) (statements : List String) : Run (List Response) :=
  let precedence := Precedence.ofSize statements.length
  let run := runner.startAll executor precedence 0 false statements
  match run.result with
  | .error error => ⟨run.trace, .error error⟩
  | .ok started =>
      match breakdown? started precedence with
      | some breakdown =>
          ⟨run.trace ++ breakdown.reports.map Failure.report,
            .error breakdown.decisive.error⟩
      | none =>
          let responses := started.filterMap Started.response?
          if responses.any fun response => response.affectedCount == 0 then
            ⟨run.trace ++ [.log (.noRowsAffected operation statements.length)],
              .error (.noRowsAffected operation statements)⟩
          else
            ⟨run.trace, .ok responses⟩

end Runner

end JsonSql
