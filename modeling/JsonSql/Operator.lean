import JsonSql.Text.Case

/-!
# Comparison operators

The tokens that a filter may use for an operator, in any ASCII case, and the
SQL operator each stands for.  A token outside the table stands for its own
upper-case form, so the table does not limit what can be compared.
-/

namespace JsonSql.Operator

def equality : String := "=="

def table : List (String × String) :=
  [ ("=", "="), ("==", "="), ("EQ", "="),
    ("<>", "<>"), ("!=", "<>"), ("NEQ", "<>"),
    (">", ">"), ("GT", ">"),
    (">=", ">="), ("GTE", ">="),
    ("<", "<"), ("LT", "<"),
    ("<=", "<="), ("LTE", "<="),
    ("IN", "IN"), ("INQ", "IN"),
    ("NOTIN", "NOT IN"), ("NIN", "NOT IN"),
    ("LIKE", "LIKE"), ("NLIKE", "NOT LIKE"),
    ("ILIKE", "LIKE"), ("LIKEI", "LIKE") ]

def caselessTokens : List String := ["ILIKE", "LIKEI"]

def lookup? (token : String) : Option String :=
  (table.find? fun row => Text.caselessEq row.1 token).map (·.2)

def isKnown (token : String) : Bool := (lookup? token).isSome

def resolve (token : String) : String :=
  (lookup? token).getD (Text.upper token)

def isMembership (token : String) : Bool :=
  resolve token = "IN" || resolve token = "NOT IN"

def isCaseless (token : String) : Bool :=
  caselessTokens.any fun listed => Text.caselessEq listed token

def compare (field token value : String) : String :=
  if isCaseless token then
    "LOWER(" ++ field ++ ") " ++ resolve token ++ " LOWER(" ++ value ++ ")"
  else
    field ++ " " ++ resolve token ++ " " ++ value

def unattainable : String := "1 = 0"

end JsonSql.Operator
