import JsonSql.Request
import JsonSql.Settings

/-!
# Sessions

A session answers requests under fixed settings and with a fixed way to name
the tables of entities.
-/

namespace JsonSql

structure Session where
  settings : Settings := { }
  tableName : Mapper → String := Mapper.quotedTable

namespace Session

def runner (session : Session) : Runner where
  timeout := session.settings.pool.timeout.toNat
  level := if session.settings.debug then .info else .debug

def target (session : Session) (mapper : Mapper) : Target :=
  ⟨session.tableName mapper, mapper.idAttribute⟩

def runPlan (session : Session) (executor : Executor) (target : Target) :
    Plan → Run Answer
  | .single statement read =>
      (session.runner.runOne executor (statement.text target)).andThen read
  | .bulk operation statements read =>
      (session.runner.runAll executor operation
        (statements.map (Statement.text target))).andThen
          fun responses => .ok (read responses)

/-- A request that cannot be planned fails with nothing sent and nothing logged. -/
def perform (session : Session) (executor : Executor) (mapper : Mapper)
    (request : Request) : Run Answer :=
  match request.plan mapper.idAttribute with
  | .error error => ⟨[], .error error⟩
  | .ok plan => session.runPlan executor (session.target mapper) plan

end Session

end JsonSql
