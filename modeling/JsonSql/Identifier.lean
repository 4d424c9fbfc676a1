import JsonSql.Text.Blank

/-!
# Identifiers

A quoted identifier stands between double quotes, with every quote inside it
written twice; `unquote?` reads it back and refuses any other text.  A column
name is a bare identifier or the quoted form of a text that is not empty.
-/

namespace JsonSql.Identifier

def doubleQuotes : List Char → List Char
  | [] => []
  | char :: chars =>
      if char = '"' then '"' :: '"' :: doubleQuotes chars
      else char :: doubleQuotes chars

def untilClosingQuote? : List Char → Option (List Char)
  | [] => none
  | ['"'] => some []
  | '"' :: '"' :: chars => (untilClosingQuote? chars).map ('"' :: ·)
  | char :: chars =>
      if char = '"' then none else (untilClosingQuote? chars).map (char :: ·)

def quote (name : String) : String :=
  String.ofList ('"' :: doubleQuotes name.toList ++ ['"'])

def unquote? (text : String) : Option String :=
  match text.toList with
  | '"' :: chars => (untilClosingQuote? chars).map String.ofList
  | _ => none

theorem untilClosingQuote?_doubleQuotes (chars : List Char) :
    untilClosingQuote? (doubleQuotes chars ++ ['"']) = some chars := by
  induction chars with
  | nil => rfl
  | cons char chars ih =>
      by_cases same : char = '"'
      · subst same
        simp [doubleQuotes, untilClosingQuote?, ih]
      · simp [doubleQuotes, untilClosingQuote?, same, ih]

@[simp] theorem unquote?_quote (name : String) :
    unquote? (quote name) = some name := by
  simp [unquote?, quote, untilClosingQuote?_doubleQuotes]

def startsBare (char : Char) : Bool :=
  char.isAlpha || char == '_'

def continuesBare (char : Char) : Bool :=
  char.isAlphanum || char == '_' || char == '$' || char == '#'

def isBare (name : String) : Bool :=
  match name.toList with
  | [] => false
  | char :: chars => startsBare char && chars.all continuesBare

def isColumnName (field : String) : Bool :=
  isBare field || (unquote? field).any (fun name => !name.isEmpty)

inductive ColumnNameError where
  | blank
  | malformed (field : String)
  deriving DecidableEq, Repr

def ColumnNameError.message : ColumnNameError → String
  | .blank => "field must not be empty"
  | .malformed field => "field '" ++ field ++ "' is not a column name"

def checkColumnName (field : String) : Except ColumnNameError Unit :=
  if field.toList.all Text.isBlank then
    .error .blank
  else if isColumnName field then
    .ok ()
  else
    .error (.malformed field)

end JsonSql.Identifier
