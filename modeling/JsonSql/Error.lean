import JsonSql.Grid
import JsonSql.Identifier
import JsonSql.Layout

/-!
# Errors

The causes for which a request fails.  `kind` sorts them into the classes that
callers tell apart, and `message` gives the whole text, which opens with the
heading of the class.
-/

namespace JsonSql

inductive ErrorKind where
  | emptyInput
  | emptyAssignment
  | invalidField
  | execution
  | unexpectedResponse
  | noRowsAffected
  | unreadable
  deriving DecidableEq, Repr

def ErrorKind.heading : ErrorKind → String
  | emptyInput => "Empty input is invalid: "
  | emptyAssignment => "Update data does not contain any values to update"
  | invalidField => "Invalid field: "
  | execution => "Execution error: "
  | unexpectedResponse => "Unexpected response: "
  | noRowsAffected => ""
  | unreadable => "JSON serialization error: "

inductive BulkOperation where
  | creation
  | update
  deriving DecidableEq, Repr

def BulkOperation.name : BulkOperation → String
  | creation => "Creation"
  | update => "Update"

inductive Mismatch where
  | affected (column : String) (count : Nat)
  | noColumn (column : String)
  | notCount (value : Json)
  deriving Repr

def Mismatch.reason : Mismatch → String
  | affected column count =>
      "expected rows with a " ++ column ++ " column, got Affected(" ++ count.repr ++ ")"
  | noColumn column => "no " ++ column ++ " column in response"
  | notCount value => "count() returned " ++ value.text

/-- A `reported` error comes from the database with a text of its own. -/
inductive Error where
  | emptyInput (cause : EmptyInput)
  | emptyAssignment
  | invalidField (cause : Identifier.ColumnNameError)
  | timedOut (milliseconds : Nat)
  | unexpected (cause : Mismatch)
  | noRowsAffected (operation : BulkOperation) (statements : List String)
  | unreadable (cause : ReadError)
  | reported (kind : ErrorKind) (text : String)
  deriving Repr

namespace Error

def kind : Error → ErrorKind
  | emptyInput _ => .emptyInput
  | emptyAssignment => .emptyAssignment
  | invalidField _ => .invalidField
  | timedOut _ => .execution
  | unexpected _ => .unexpectedResponse
  | noRowsAffected _ _ => .noRowsAffected
  | unreadable _ => .unreadable
  | reported kind _ => kind

def detail : Error → String
  | emptyInput cause => cause.reason
  | emptyAssignment => ""
  | invalidField cause => cause.message
  | timedOut milliseconds =>
      "statement timed out after " ++ milliseconds.repr ++ "ms"
  | unexpected cause => cause.reason
  | noRowsAffected operation statements =>
      operation.name ++ " failed, no rows affected. SQL: " ++
        "\n".intercalate statements
  | unreadable cause => cause.message
  | reported _ text => text

def message (error : Error) : String := error.kind.heading ++ error.detail

end Error

end JsonSql
