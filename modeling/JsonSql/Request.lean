import JsonSql.Execution
import JsonSql.Mapper
import JsonSql.Query
import JsonSql.Statement

/-!
# Requests

What can be asked about the records of an entity.  A request is planned before
anything is sent: the plan holds all its statements and tells how the responses
become the answer, and planning alone decides whether a request is refused.
-/

namespace JsonSql

inductive Request where
  | count (query : Json)
  | sum (field : String) (query : Json)
  | find (id : Json)
  | findAll (query : Json)
  | create (records : Json)
  | update (id changes : Json)
  | updateAll (changes query : Json)
  | updateMany (records : List Json)
  | destroy (id : Json)
  | destroyAll (query : Json)
  deriving Repr, Inhabited

inductive Answer where
  | count (number : Nat)
  | value (value : Json)
  | record (found : Option Record)
  | records (found : List Record)
  deriving Repr, Inhabited

def firstColumn (column : String) : Response → Except Error Json
  | .affected count => .error (.unexpected (.affected column count))
  | .rows rows =>
      match rows.head?.bind fun row =>
        row.find? fun entry => Text.caselessEq entry.1 column with
      | some entry => .ok entry.2
      | none => .error (.unexpected (.noColumn column))

def digitsValue (digits : List Char) : Nat :=
  digits.foldl (fun value digit => value * 10 + (digit.toNat - '0'.toNat)) 0

/-- Decimal digits, with one plus sign before them at most. -/
def numeral? (text : String) : Option Nat :=
  let digits := match text.toList with
    | '+' :: digits => digits
    | digits => digits
  if digits.isEmpty || !digits.all Char.isDigit then none
  else some (digitsValue digits)

def countLimit : Nat := Nat.pow 2 64

def countOf? : Json → Option Nat
  | .number (.integer value) =>
      if 0 ≤ value ∧ value.toNat < countLimit then some value.toNat else none
  | .string text => (numeral? text).filter fun number => number < countLimit
  | _ => none

def readCount (response : Response) : Except Error Answer := do
  let value ← firstColumn "COUNT" response
  match countOf? value with
  | some number => .ok (.count number)
  | none => .error (.unexpected (.notCount value))

def readSum (response : Response) : Except Error Answer :=
  (firstColumn "SUM" response).map .value

def readAffected (response : Response) : Except Error Answer :=
  .ok (.count response.affectedCount)

/-! ## Plans -/

inductive Plan where
  | single (statement : Statement) (read : Response → Except Error Answer)
  | bulk (operation : BulkOperation) (statements : List Statement)
      (read : List Response → Answer)

def Plan.statements : Plan → List Statement
  | single statement _ => [statement]
  | bulk _ statements _ => statements

def assignmentsOf (changes : Json) : Except Error (List String) :=
  match assignments? changes with
  | some assignments => .ok assignments
  | none => .error .emptyAssignment

def updateOf (idAttribute : String) (record : Json) : Except Error Statement := do
  let assignments ← assignmentsOf record
  .ok (.updateById assignments ((record.get? idAttribute).getD .null))

namespace Request

def plan (idAttribute : String) : Request → Except Error Plan
  | count query => .ok (.single (.count (compileClause query)) readCount)
  | sum field query => do
      (Identifier.checkColumnName field).mapError Error.invalidField
      .ok (.single (.sum field (compileClause query)) readSum)
  | find id =>
      .ok (.single (.selectById id) fun response =>
        .ok (.record response.rowList.head?))
  | findAll query =>
      .ok (.single (.select (compileClause query)) fun response =>
        .ok (.records response.rowList))
  | create records => do
      let grid ← (Grid.ofJson records).mapError Error.emptyInput
      .ok (.bulk .creation grid.insertions fun _ => .value records)
  | update id changes => do
      let assignments ← assignmentsOf changes
      .ok (.single (.updateById assignments id) readAffected)
  | updateAll changes query => do
      let assignments ← assignmentsOf changes
      .ok (.single (.update assignments (compileClause query)) readAffected)
  | updateMany records => do
      let statements ← records.mapM (updateOf idAttribute)
      .ok (.bulk .update statements fun responses => .count responses.length)
  | destroy id => .ok (.single (.deleteById id) readAffected)
  | destroyAll query =>
      .ok (.single (.delete (compileClause query)) readAffected)

theorem plan_sum (idAttribute field : String) (query : Json) :
    plan idAttribute (sum field query) =
      match Identifier.checkColumnName field with
      | .ok _ => .ok (.single (.sum field (compileClause query)) readSum)
      | .error cause => .error (.invalidField cause) := by
  rw [plan]
  cases Identifier.checkColumnName field <;> rfl

theorem plan_create (idAttribute : String) (records : Json) :
    plan idAttribute (create records) =
      match Grid.ofJson records with
      | .ok grid => .ok (.bulk .creation grid.insertions fun _ => .value records)
      | .error cause => .error (.emptyInput cause) := by
  rw [plan]
  cases Grid.ofJson records <;> rfl

theorem plan_update (idAttribute : String) (id changes : Json) :
    plan idAttribute (update id changes) =
      match assignmentsOf changes with
      | .ok assignments => .ok (.single (.updateById assignments id) readAffected)
      | .error cause => .error cause := by
  rw [plan]
  cases assignmentsOf changes <;> rfl

theorem plan_updateMany (idAttribute : String) (records : List Json) :
    plan idAttribute (updateMany records) =
      match records.mapM (updateOf idAttribute) with
      | .ok statements =>
          .ok (.bulk .update statements fun responses => .count responses.length)
      | .error cause => .error cause := by
  rw [plan]
  cases records.mapM (updateOf idAttribute) <;> rfl

theorem plan_updateAll (idAttribute : String) (changes query : Json) :
    plan idAttribute (updateAll changes query) =
      match assignmentsOf changes with
      | .ok assignments =>
          .ok (.single (.update assignments (compileClause query)) readAffected)
      | .error cause => .error cause := by
  rw [plan]
  cases assignmentsOf changes <;> rfl

end Request

end JsonSql
