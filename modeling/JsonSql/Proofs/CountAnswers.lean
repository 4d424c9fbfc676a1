import Mathlib.Data.Nat.Digits.Defs
import JsonSql.Proofs.Refusals

/-!
# Answers to a count

A count is answered if the first row of the response has a column for it and the value
there is a number below the limit, written as an integer or as a decimal numeral.  No
other response is taken for a count, and no row behind the first one is looked at.
-/

namespace JsonSql

/-- Decimal digits of a number, one at least, with any zeros before them. -/
def IsDecimal (digits : List Char) (number : Nat) : Prop :=
  digits ≠ [] ∧ (∀ digit ∈ digits, digit.isDigit = true) ∧
    Nat.ofDigits 10 (digits.reverse.map fun digit => digit.toNat - '0'.toNat) = number

def IsNumeral (text : String) (number : Nat) : Prop :=
  ∃ digits, (text.toList = digits ∨ text.toList = '+' :: digits) ∧ IsDecimal digits number

theorem digitsValue_eq_ofDigits (digits : List Char) :
    digitsValue digits =
      Nat.ofDigits 10 (digits.reverse.map fun digit => digit.toNat - '0'.toNat) := by
  rw [digitsValue, ← List.foldr_reverse]
  induction digits.reverse with
  | nil => rfl
  | cons digit digits ih =>
      rw [List.foldr_cons, ih, List.map_cons, Nat.ofDigits_cons]
      omega

theorem digits_read_iff (digits : List Char) (number : Nat) :
    (if digits.isEmpty || !digits.all Char.isDigit then none
      else some (digitsValue digits)) = some number ↔ IsDecimal digits number := by
  rw [digitsValue_eq_ofDigits, IsDecimal]
  by_cases empty : digits = []
  · simp [empty]
  · simp [empty]

theorem IsDecimal.no_plus {digits : List Char} {number : Nat}
    (decimal : IsDecimal ('+' :: digits) number) : False := by
  have digit := decimal.2.1 '+' List.mem_cons_self
  revert digit
  decide

theorem numeral?_eq_some_iff (text : String) (number : Nat) :
    numeral? text = some number ↔ IsNumeral text number := by
  rw [numeral?, digits_read_iff]
  split
  · rename_i digits signed
    constructor
    · intro decimal
      exact ⟨digits, .inr signed, decimal⟩
    · rintro ⟨others, unsigned | alsoSigned, decimal⟩
      · rw [← unsigned, signed] at decimal
        exact decimal.no_plus.elim
      · rw [signed] at alsoSigned
        rwa [(List.cons.inj alsoSigned).2]
  · rename_i unsigned
    constructor
    · intro decimal
      exact ⟨text.toList, .inl rfl, decimal⟩
    · rintro ⟨digits, same | signed, decimal⟩
      · rwa [same]
      · exact absurd signed (unsigned digits)

/-- The value stands for a number of rows that 64 bits can hold. -/
inductive Json.GivesCount : Json → Nat → Prop where
  | integer {number : Nat} : number < countLimit →
      GivesCount (.number (.integer number)) number
  | numeral {text : String} {number : Nat} : IsNumeral text number → number < countLimit →
      GivesCount (.string text) number

theorem countOf?_eq_some_iff (value : Json) (number : Nat) :
    countOf? value = some number ↔ value.GivesCount number := by
  cases value with
  | number shown =>
      cases shown with
      | integer given =>
          rw [countOf?]
          constructor
          · intro counted
            split at counted
            · rename_i range
              obtain rfl := Option.some.inj counted
              have given' : .number (.integer given) =
                  Json.number (.integer (given.toNat : Int)) := by
                rw [Int.toNat_of_nonneg range.1]
              rw [given']
              exact .integer range.2
            · cases counted
          · rintro ⟨below⟩
            rw [Int.toNat_natCast, if_pos ⟨Int.natCast_nonneg number, below⟩]
      | double bits =>
          refine iff_of_false (by simp [countOf?]) ?_
          rintro ⟨⟩
  | string text =>
      rw [countOf?, Option.filter_eq_some_iff, numeral?_eq_some_iff, decide_eq_true_eq]
      constructor
      · intro counted
        exact .numeral counted.1 counted.2
      · rintro (⟨⟩ | ⟨numeral, below⟩)
        exact ⟨numeral, below⟩
  | _ =>
      refine iff_of_false (by simp [countOf?]) ?_
      rintro ⟨⟩

/-- The first entry of a row under the name of the column, in any ASCII case, has the
value. -/
def Record.ShowsFirst (row : Record) (column : String) (value : Json) : Prop :=
  ∃ before key after, row = before ++ (key, value) :: after ∧
    Text.caselessEq key column = true ∧
    ∀ entry ∈ before, Text.caselessEq entry.1 column = false

theorem Record.find?_eq_some_iff (row : Record) (column : String) (value : Json) :
    (∃ key, row.find? (fun entry => Text.caselessEq entry.1 column) = some (key, value)) ↔
      row.ShowsFirst column value := by
  simp only [List.find?_eq_some_iff_append, Bool.not_eq_true', ShowsFirst]
  constructor
  · rintro ⟨key, named, before, after, shape, others⟩
    exact ⟨before, key, after, shape, named, others⟩
  · rintro ⟨before, key, after, shape, named, others⟩
    exact ⟨key, named, before, after, shape, others⟩

theorem firstColumn_cons (column : String) (row : Record) (rest : List Record) :
    firstColumn column (.rows (row :: rest)) =
      match row.find? fun entry => Text.caselessEq entry.1 column with
      | some entry => .ok entry.2
      | none => .error (.unexpected (.noColumn column)) := rfl

theorem firstColumn_eq_ok_iff (column : String) (response : Response) (value : Json) :
    firstColumn column response = .ok value ↔
      ∃ row rest, response = .rows (row :: rest) ∧ Record.ShowsFirst row column value := by
  cases response with
  | affected count => simp [firstColumn]
  | rows rows =>
      cases rows with
      | nil => simp [firstColumn]
      | cons row rest =>
          rw [firstColumn_cons]
          have shown := Record.find?_eq_some_iff row column value
          constructor
          · intro given
            split at given
            · rename_i entry found
              obtain rfl := Except.ok.inj given
              exact ⟨row, rest, rfl, shown.mp ⟨entry.1, found⟩⟩
            · cases given
          · rintro ⟨_, _, same, shows⟩
            obtain ⟨rfl, rfl⟩ := List.cons.inj (Response.rows.inj same)
            obtain ⟨key, found⟩ := shown.mpr shows
            rw [found]

def Response.GivesCount (response : Response) (number : Nat) : Prop :=
  ∃ row rest value, response = .rows (row :: rest) ∧
    Record.ShowsFirst row "COUNT" value ∧ value.GivesCount number

theorem Response.givesCount_iff (response : Response) (number : Nat) :
    response.GivesCount number ↔
      ∃ value, firstColumn "COUNT" response = .ok value ∧ countOf? value = some number := by
  simp only [GivesCount, firstColumn_eq_ok_iff, countOf?_eq_some_iff]
  constructor
  · rintro ⟨row, rest, value, rows, shows, gives⟩
    exact ⟨value, ⟨row, rest, rows, shows⟩, gives⟩
  · rintro ⟨value, ⟨row, rest, rows, shows⟩, gives⟩
    exact ⟨row, rest, value, rows, shows, gives⟩

theorem readCount_of_column {response : Response} {value : Json}
    (column : firstColumn "COUNT" response = .ok value) :
    readCount response =
      match countOf? value with
      | some number => .ok (.count number)
      | none => .error (.unexpected (.notCount value)) := by
  rw [readCount, column]
  rfl

theorem readCount_eq_ok_iff (response : Response) (answer : Answer) :
    readCount response = .ok answer ↔
      ∃ number, answer = .count number ∧ response.GivesCount number := by
  simp only [Response.givesCount_iff]
  cases column : firstColumn "COUNT" response with
  | error cause =>
      have refused : readCount response = .error cause := by
        rw [readCount, column]
        rfl
      rw [refused]
      simp
  | ok value =>
      rw [readCount_of_column column]
      cases counted : countOf? value with
      | none => simp [counted]
      | some number => simp [counted, eq_comm]

theorem readCount_of_same_first (row : Record) (rest others : List Record) :
    readCount (.rows (row :: rest)) = readCount (.rows (row :: others)) := by
  rw [readCount, readCount, firstColumn_cons, firstColumn_cons]

/-! ## Counting -/

namespace Session

def countText (session : Session) (mapper : Mapper) (query : Json) : String :=
  (Statement.count (compileClause query)).text (session.target mapper)

def AnswersCount (session : Session) (executor : Executor) (mapper : Mapper)
    (query : Json) (response : Response) : Prop :=
  (session.runner.startOf executor 0 (session.countText mapper query)).reply.outcome =
    .ok response

variable {session : Session} {executor : Executor} {mapper : Mapper} {query : Json}
  {response : Response}

theorem result_count (answered : session.AnswersCount executor mapper query response) :
    (session.perform executor mapper (.count query)).result = readCount response := by
  rw [AnswersCount, ← (session.runner.runOne_cases executor _).2] at answered
  rw [perform_of_planned rfl]
  change (session.runner.runOne executor (session.countText mapper query)).result.bind
    readCount = readCount response
  rw [answered]
  rfl

/-- A count is answered by the number that the first row of a response gives, and a
response that gives none is unexpected.  The rows behind the first one change nothing, not
even the error. -/
theorem count_answered_by_first_row
    (answered : session.AnswersCount executor mapper query response) :
    (∀ answer, (session.perform executor mapper (.count query)).result = .ok answer ↔
        ∃ number, answer = .count number ∧ response.GivesCount number) ∧
      ((∀ number, ¬ response.GivesCount number) →
        ∃ error, (session.perform executor mapper (.count query)).result = .error error ∧
          error.kind = .unexpectedResponse) ∧
      ∀ row rest others (other : Executor), response = .rows (row :: rest) →
        session.AnswersCount other mapper query (.rows (row :: others)) →
        (session.perform other mapper (.count query)).result =
          (session.perform executor mapper (.count query)).result := by
  rw [result_count answered]
  refine ⟨readCount_eq_ok_iff response, fun none => ?_, ?_⟩
  · cases read : readCount response with
    | error error => exact ⟨error, rfl, kind_of_readCount read⟩
    | ok answer =>
        obtain ⟨number, -, gives⟩ := (readCount_eq_ok_iff response answer).mp read
        exact absurd gives (none number)
  · rintro row rest others other rfl otherAnswered
    rw [result_count otherAnswered, readCount_of_same_first row others rest]

def totalRow : Record :=
  [ ("total", .null), ("Count", .string "+0012"), ("COUNT", .number (.integer 3)) ]

def lateTotal : Executor := fun _ _ => ⟨30000, .ok (.rows [totalRow, []])⟩

def singleTotal : Executor := fun _ _ => ⟨0, .ok (.rows [totalRow])⟩

def excessiveTotal : Executor := fun _ _ =>
  ⟨0, .ok (.rows [[("COUNT", .string "18446744073709551616")]])⟩

theorem totals_counted :
    Session.AnswersCount { } lateTotal Request.jobs .null (.rows [totalRow, []]) ∧
      Response.GivesCount (.rows [totalRow, []]) 12 ∧
      (Session.perform { } lateTotal Request.jobs (.count .null)).result =
        .ok (.count 12) ∧
      (Session.perform { } singleTotal Request.jobs (.count .null)).result =
        .ok (.count 12) ∧
      ∃ error, (Session.perform { } excessiveTotal Request.jobs (.count .null)).result =
        .error error ∧ error.kind = .unexpectedResponse := by
  have late : Session.AnswersCount { } lateTotal Request.jobs .null
      (.rows [totalRow, []]) := rfl
  have single : Session.AnswersCount { } singleTotal Request.jobs .null
      (.rows [totalRow]) := rfl
  have excessive : Session.AnswersCount { } excessiveTotal Request.jobs .null
      (.rows [[("COUNT", .string "18446744073709551616")]]) := rfl
  have gives : Response.GivesCount (.rows [totalRow, []]) 12 :=
    (Response.givesCount_iff _ _).mpr ⟨.string "+0012", rfl, rfl⟩
  have counted : (Session.perform { } lateTotal Request.jobs (.count .null)).result =
      .ok (.count 12) :=
    ((count_answered_by_first_row late).1 _).mpr ⟨12, rfl, gives⟩
  refine ⟨late, gives, counted, ?_, ?_⟩
  · rw [← counted]
    exact (count_answered_by_first_row late).2.2 _ _ [] singleTotal rfl single
  · refine (count_answered_by_first_row excessive).2.1 fun number more => ?_
    obtain ⟨value, column, counted⟩ := (Response.givesCount_iff _ _).mp more
    obtain rfl : .string "18446744073709551616" = value := Except.ok.inj column
    have none : countOf? (.string "18446744073709551616") = none := rfl
    rw [none] at counted
    cases counted

end Session

end JsonSql
