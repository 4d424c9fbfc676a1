import JsonSql.Proofs.ColumnNames
import JsonSql.Session

/-!
# Identifiers inside statements

A quoted identifier ends at the first quote that is not doubled, so a text with
it in front gives it back together with the rest, as long as the rest begins with
no quote.  No clause begins with one, and a column name is told from the
parenthesis behind it.  So the text of a statement fixes its table, its column
and its clause, whatever stands in their names.
-/

namespace JsonSql

/-- A text behind a quoted identifier that does not continue it. -/
def EndsQuote (text : String) : Prop := text.toList.head? ≠ some '"'

instance (text : String) : Decidable (EndsQuote text) :=
  inferInstanceAs (Decidable (_ ≠ _))

theorem endsQuote_append {first second : String} (endsFirst : EndsQuote first)
    (endsSecond : EndsQuote second) : EndsQuote (first ++ second) := by
  unfold EndsQuote at *
  rw [String.toList_append, List.head?_append]
  cases head : first.toList.head? with
  | none => simpa using endsSecond
  | some char =>
      rw [head] at endsFirst
      simpa using endsFirst

theorem endsQuote_append_of_ne_empty {first : String} (filled : first ≠ "")
    (ends : EndsQuote first) (second : String) : EndsQuote (first ++ second) := by
  unfold EndsQuote at *
  rw [String.toList_append, List.head?_append]
  cases head : first.toList.head? with
  | none =>
      have none : first.toList = [] := List.head?_eq_none_iff.mp head
      exact absurd (String.toList_eq_nil_iff.mp none) filled
  | some char =>
      rw [head] at ends
      simpa using ends

@[simp] theorem endsQuote_empty : EndsQuote "" := by simp [EndsQuote]

namespace Identifier

theorem doubleQuotes_append_inj {first second left right : List Char}
    (endsLeft : left.head? ≠ some '"') (endsRight : right.head? ≠ some '"')
    (same : doubleQuotes first ++ '"' :: left = doubleQuotes second ++ '"' :: right) :
    first = second ∧ left = right := by
  induction first generalizing second with
  | nil =>
      cases second with
      | nil => simpa [doubleQuotes] using same
      | cons char second =>
          by_cases quoteMark : char = '"'
          · have continued : left = '"' :: (doubleQuotes second ++ '"' :: right) := by
              simpa [doubleQuotes, quoteMark] using same
            simp [continued] at endsLeft
          · have opened : '"' = char := by
              simp [doubleQuotes, quoteMark] at same
              exact same.1
            exact absurd opened.symm quoteMark
  | cons char first ih =>
      cases second with
      | nil =>
          by_cases quoteMark : char = '"'
          · have continued : '"' :: (doubleQuotes first ++ '"' :: left) = right := by
              simpa [doubleQuotes, quoteMark] using same
            simp [← continued] at endsRight
          · have opened : char = '"' := by
              simp [doubleQuotes, quoteMark] at same
            exact absurd opened quoteMark
      | cons other second =>
          by_cases quoteMark : char = '"' <;> by_cases otherMark : other = '"'
          · have rest : doubleQuotes first ++ '"' :: left =
                doubleQuotes second ++ '"' :: right := by
              simpa [doubleQuotes, quoteMark, otherMark] using same
            obtain ⟨names, behind⟩ := ih rest
            exact ⟨by rw [quoteMark, otherMark, names], behind⟩
          · simp [doubleQuotes, quoteMark, otherMark] at same
            exact absurd same.1.symm otherMark
          · simp [doubleQuotes, quoteMark, otherMark] at same
          · have parts : char = other ∧ doubleQuotes first ++ '"' :: left =
                doubleQuotes second ++ '"' :: right := by
              simpa [doubleQuotes, quoteMark, otherMark] using same
            obtain ⟨names, behind⟩ := ih parts.2
            exact ⟨by rw [parts.1, names], behind⟩

theorem quote_append_inj {first second left right : String} (endsLeft : EndsQuote left)
    (endsRight : EndsQuote right)
    (same : quote first ++ left = quote second ++ right) :
    first = second ∧ left = right := by
  have chars := congrArg String.toList same
  have inner : doubleQuotes first.toList ++ '"' :: left.toList =
      doubleQuotes second.toList ++ '"' :: right.toList := by
    simpa [quote] using chars
  obtain ⟨names, behind⟩ := doubleQuotes_append_inj endsLeft endsRight inner
  exact ⟨String.toList_inj.mp names, String.toList_inj.mp behind⟩

theorem quote_separator_inj {first second separator left right : String}
    (filled : separator ≠ "") (ends : EndsQuote separator)
    (same : quote first ++ (separator ++ left) = quote second ++ (separator ++ right)) :
    first = second ∧ left = right := by
  obtain ⟨names, behind⟩ := quote_append_inj (endsQuote_append_of_ne_empty filled ends left)
    (endsQuote_append_of_ne_empty filled ends right) same
  exact ⟨names, (String.append_right_inj separator).mp behind⟩

theorem continuesBare_of_startsBare {char : Char} (starts : startsBare char = true) :
    continuesBare char = true := by
  unfold startsBare at starts
  unfold continuesBare Char.isAlphanum
  rcases (Bool.or_eq_true _ _).mp starts with letter | underscore
  · simp [letter]
  · simp [underscore]

theorem closing_not_mem_bare {first : Char} {rest : List Char}
    (starts : startsBare first = true) (continues : rest.all continuesBare = true) :
    ')' ∉ first :: rest := by
  intro member
  have parenthesis : continuesBare ')' = true := by
    rcases List.mem_cons.mp member with same | later
    · rw [same]
      exact continuesBare_of_startsBare starts
    · exact List.all_eq_true.mp continues _ later
  revert parenthesis
  decide

theorem append_closing_inj {first second left right : List Char} (noneFirst : ')' ∉ first)
    (noneSecond : ')' ∉ second) (same : first ++ ')' :: left = second ++ ')' :: right) :
    first = second ∧ left = right := by
  induction first generalizing second with
  | nil =>
      cases second with
      | nil => simpa using same
      | cons char second =>
          have head : ')' = char := (List.cons.inj same).1
          exact absurd head (List.ne_of_not_mem_cons noneSecond)
  | cons char first ih =>
      cases second with
      | nil =>
          have head : char = ')' := (List.cons.inj same).1
          exact absurd head.symm (List.ne_of_not_mem_cons noneFirst)
      | cons other second =>
          obtain ⟨head, rest⟩ := List.cons.inj same
          obtain ⟨names, behind⟩ := ih (List.not_mem_of_not_mem_cons noneFirst)
            (List.not_mem_of_not_mem_cons noneSecond) rest
          exact ⟨by rw [head, names], behind⟩

theorem bare_ne_quoted {first : Char} {rest : List Char} (starts : startsBare first = true)
    (name left right : String) :
    String.ofList (first :: rest) ++ left ≠ quote name ++ right := by
  intro same
  have chars := congrArg String.toList same
  have head : first = '"' := by
    simp [quote] at chars
    exact chars.1
  rw [head] at starts
  revert starts
  decide

theorem IsColumnName.append_inj {first second left right : String}
    (namedFirst : IsColumnName first) (namedSecond : IsColumnName second)
    (same : first ++ (")" ++ left) = second ++ (")" ++ right)) :
    first = second ∧ left = right := by
  cases namedFirst with
  | @bare char rest starts continues =>
      cases namedSecond with
      | @bare other more startsOther continuesOther =>
          have chars := congrArg String.toList same
          have inner : char :: rest ++ ')' :: left.toList =
              other :: more ++ ')' :: right.toList := by
            simpa using chars
          obtain ⟨names, behind⟩ :=
            append_closing_inj (closing_not_mem_bare starts continues)
              (closing_not_mem_bare startsOther continuesOther) inner
          exact ⟨by rw [names], String.toList_inj.mp behind⟩
      | quoted _ => exact absurd same (bare_ne_quoted starts _ _ _)
  | @quoted name _ =>
      cases namedSecond with
      | @bare other more startsOther _ =>
          exact absurd same.symm (bare_ne_quoted startsOther _ _ _)
      | @quoted otherName _ =>
          obtain ⟨names, behind⟩ := quote_separator_inj (by decide) (by decide) same
          exact ⟨by rw [names], behind⟩

end Identifier

namespace Query

theorem endsQuote_rawWhereText (text : String) : EndsQuote (rawWhereText text) := by
  unfold rawWhereText
  simp only
  split
  · rename_i keyword
    intro opened
    -- A quote is no blank, so it would be the first letter of the keyword.
    obtain ⟨rest, shape⟩ := List.head?_eq_some_iff.mp opened
    have notBlank : Text.isBlank '"' = false := by decide
    have letters := Text.caselessEq_iff.mp keyword
    simp [Text.trimStart, shape, notBlank] at letters
  · exact endsQuote_append_of_ne_empty (by decide) (by decide) text

theorem endsQuote_whereText (filter : Option Filter) : EndsQuote (whereText filter) := by
  unfold whereText
  split
  · exact endsQuote_empty
  · exact endsQuote_rawWhereText _
  · split
    · exact endsQuote_empty
    · exact endsQuote_append_of_ne_empty (by decide) (by decide) _

theorem endsQuote_orderByText (columns : List SortColumn) :
    EndsQuote (orderByText columns) := by
  unfold orderByText
  split
  · exact endsQuote_empty
  · exact endsQuote_append_of_ne_empty (by decide) (by decide) _

theorem endsQuote_pageText (limit offset : Option Number) :
    EndsQuote (pageText limit offset) := by
  apply endsQuote_append
  · cases limit with
    | none => exact endsQuote_empty
    | some number => exact endsQuote_append_of_ne_empty (by decide) (by decide) number.text
  · cases offset with
    | none => exact endsQuote_empty
    | some number => exact endsQuote_append_of_ne_empty (by decide) (by decide) number.text

theorem endsQuote_compileClause (query : Json) : EndsQuote (compileClause query) := by
  unfold compileClause clause
  apply endsQuote_append
  · exact endsQuote_append (endsQuote_whereText _) (endsQuote_orderByText _)
  · exact endsQuote_pageText _ _

theorem quote_clause_inj {first second : String} {query other : Json}
    (same : Identifier.quote first ++ compileClause query =
      Identifier.quote second ++ compileClause other) :
    first = second ∧ compileClause query = compileClause other :=
  Identifier.quote_append_inj (endsQuote_compileClause query)
    (endsQuote_compileClause other) same

end Query

/-! ## Statements -/

def Mapper.target (mapper : Mapper) : Target := Session.target { } mapper

namespace Statement

variable (mapper : Mapper)

theorem text_deleteById (id : Json) :
    (deleteById id).text mapper.target =
      "DELETE FROM " ++ (Identifier.quote mapper.table ++ (" WHERE " ++
        (Identifier.quote mapper.idAttribute ++ (" = " ++ id.literal)))) := by
  change "DELETE FROM " ++ Identifier.quote mapper.table ++ " WHERE " ++
    (Identifier.quote mapper.idAttribute ++ " = " ++ id.literal) = _
  simp only [String.append_assoc]

theorem text_selectById (id : Json) :
    (selectById id).text mapper.target =
      "SELECT " ++ (Identifier.quote mapper.table ++ (".* FROM " ++
        (Identifier.quote mapper.table ++ (" WHERE " ++
          (Identifier.quote mapper.table ++ ("." ++
            (Identifier.quote mapper.idAttribute ++ (" = " ++ id.literal)))))))) := by
  change "SELECT " ++ Identifier.quote mapper.table ++ ".* FROM " ++
    Identifier.quote mapper.table ++ " WHERE " ++ Identifier.quote mapper.table ++ "." ++
    (Identifier.quote mapper.idAttribute ++ " = " ++ id.literal) = _
  simp only [String.append_assoc]

theorem text_delete (clause : String) :
    (delete clause).text mapper.target =
      "DELETE FROM " ++ (Identifier.quote mapper.table ++ clause) := by
  change "DELETE FROM " ++ Identifier.quote mapper.table ++ clause = _
  simp only [String.append_assoc]

theorem text_select (clause : String) :
    (select clause).text mapper.target =
      "SELECT " ++ (Identifier.quote mapper.table ++ (".* FROM " ++
        (Identifier.quote mapper.table ++ clause))) := by
  change "SELECT " ++ Identifier.quote mapper.table ++ ".* FROM " ++
    Identifier.quote mapper.table ++ clause = _
  simp only [String.append_assoc]

theorem text_count (clause : String) :
    (count clause).text mapper.target =
      "SELECT COUNT(*) AS COUNT FROM " ++ (Identifier.quote mapper.table ++ clause) := by
  change "SELECT COUNT(*) AS COUNT FROM " ++ Identifier.quote mapper.table ++ clause = _
  simp only [String.append_assoc]

theorem text_sum (field clause : String) :
    (sum field clause).text mapper.target =
      "SELECT SUM(" ++ (field ++ (")" ++ (" AS SUM FROM " ++
        (Identifier.quote mapper.table ++ clause)))) := by
  change "SELECT SUM(" ++ field ++ ") AS SUM FROM " ++ Identifier.quote mapper.table ++
    clause = _
  have split : ") AS SUM FROM " = ")" ++ " AS SUM FROM " := by decide
  simp only [split, String.append_assoc]

end Statement

section

variable {first second : Mapper}

namespace Statement

theorem deleteById_inj {id other : Json}
    (same : (deleteById id).text first.target = (deleteById other).text second.target) :
    first.table = second.table ∧ first.idAttribute = second.idAttribute ∧
      id.literal = other.literal := by
  rw [text_deleteById, text_deleteById, String.append_right_inj] at same
  obtain ⟨tables, condition⟩ :=
    Identifier.quote_separator_inj (by decide) (by decide) same
  exact ⟨tables, Identifier.quote_separator_inj (by decide) (by decide) condition⟩

theorem selectById_inj {id other : Json}
    (same : (selectById id).text first.target = (selectById other).text second.target) :
    first.table = second.table ∧ first.idAttribute = second.idAttribute ∧
      id.literal = other.literal := by
  rw [text_selectById, text_selectById, String.append_right_inj] at same
  obtain ⟨tables, source⟩ := Identifier.quote_separator_inj (by decide) (by decide) same
  obtain ⟨-, condition⟩ := Identifier.quote_separator_inj (by decide) (by decide) source
  obtain ⟨-, column⟩ :=
    Identifier.quote_separator_inj (by decide) (by decide) condition
  exact ⟨tables, Identifier.quote_separator_inj (by decide) (by decide) column⟩

variable {query other : Json}

theorem delete_inj
    (same : (delete (compileClause query)).text first.target =
      (delete (compileClause other)).text second.target) :
    first.table = second.table ∧ compileClause query = compileClause other := by
  rw [text_delete, text_delete, String.append_right_inj] at same
  exact Query.quote_clause_inj same

theorem select_inj
    (same : (select (compileClause query)).text first.target =
      (select (compileClause other)).text second.target) :
    first.table = second.table ∧ compileClause query = compileClause other := by
  rw [text_select, text_select, String.append_right_inj] at same
  obtain ⟨-, source⟩ := Identifier.quote_separator_inj (by decide) (by decide) same
  exact Query.quote_clause_inj source

theorem count_inj
    (same : (count (compileClause query)).text first.target =
      (count (compileClause other)).text second.target) :
    first.table = second.table ∧ compileClause query = compileClause other := by
  rw [text_count, text_count, String.append_right_inj] at same
  exact Query.quote_clause_inj same

theorem sum_inj {field otherField : String} (named : Identifier.IsColumnName field)
    (otherNamed : Identifier.IsColumnName otherField)
    (same : (sum field (compileClause query)).text first.target =
      (sum otherField (compileClause other)).text second.target) :
    field = otherField ∧ first.table = second.table ∧
      compileClause query = compileClause other := by
  rw [text_sum, text_sum, String.append_right_inj] at same
  obtain ⟨fields, rest⟩ := named.append_inj otherNamed same
  rw [String.append_right_inj] at rest
  exact ⟨fields, Query.quote_clause_inj rest⟩

end Statement

end

theorem Identifier.isColumnName_of_checked {field : String}
    (checked : checkColumnName field = .ok ()) : IsColumnName field := by
  rcases checkColumnName_cases field with ⟨named, -⟩ | ⟨-, cause, refused⟩
  · exact named
  · rw [refused] at checked
    cases checked

namespace Mapper

/-- Where table names are quoted, two statements of one kind with the same text are
about the same table and name the same column or attribute; they have the same
clause, or the same text for the identifier of the row.  No name moves the place
where it ends. -/
theorem same_names_of_same_text (first second : Mapper) :
    (∀ id other : Json,
      (Statement.deleteById id).text first.target =
          (Statement.deleteById other).text second.target →
        first.table = second.table ∧ first.idAttribute = second.idAttribute ∧
          id.literal = other.literal) ∧
    (∀ id other : Json,
      (Statement.selectById id).text first.target =
          (Statement.selectById other).text second.target →
        first.table = second.table ∧ first.idAttribute = second.idAttribute ∧
          id.literal = other.literal) ∧
    (∀ statement ∈ [Statement.delete, Statement.select, Statement.count],
      ∀ query other : Json,
        (statement (compileClause query)).text first.target =
            (statement (compileClause other)).text second.target →
          first.table = second.table ∧ compileClause query = compileClause other) ∧
    ∀ field otherField : String,
      Identifier.checkColumnName field = .ok () →
      Identifier.checkColumnName otherField = .ok () →
      ∀ query other : Json,
        (Statement.sum field (compileClause query)).text first.target =
            (Statement.sum otherField (compileClause other)).text second.target →
          field = otherField ∧ first.table = second.table ∧
            compileClause query = compileClause other := by
  refine ⟨fun id other => Statement.deleteById_inj, fun id other => Statement.selectById_inj,
    ?_, ?_⟩
  · intro statement kind query other same
    simp only [List.mem_cons, List.not_mem_nil, or_false] at kind
    rcases kind with rfl | rfl | rfl
    · exact Statement.delete_inj same
    · exact Statement.select_inj same
    · exact Statement.count_inj same
  · intro field otherField checked otherChecked query other same
    exact Statement.sum_inj (Identifier.isColumnName_of_checked checked)
      (Identifier.isColumnName_of_checked otherChecked) same

def quotedName : Mapper := ⟨"orders", "O\" WHERE \"ID\" = 1", "I\"D"⟩

theorem quotedName_read_back :
    (Statement.deleteById (.array [])).text quotedName.target =
        (Statement.deleteById (.string "[]")).text quotedName.target ∧
      (Json.array []).literal = (Json.string "[]").literal ∧
      (Statement.deleteById .null).text quotedName.target ≠
        (Statement.deleteById .null).text (Mapper.target ⟨"orders", "O", "ID"⟩) ∧
      Identifier.checkColumnName "\"a)\"" = .ok () ∧
      (Statement.sum "\"a)\"" (compileClause .null)).text quotedName.target =
        (Statement.sum "\"a)\"" (compileClause (.object []))).text quotedName.target ∧
      compileClause .null = compileClause (.object []) := by
  have sameId : (Statement.deleteById (.array [])).text quotedName.target =
      (Statement.deleteById (.string "[]")).text quotedName.target := by decide
  have checked : Identifier.checkColumnName "\"a)\"" = .ok () := by rfl
  have sameSum : (Statement.sum "\"a)\"" (compileClause .null)).text quotedName.target =
      (Statement.sum "\"a)\"" (compileClause (.object []))).text quotedName.target := by
    decide
  refine ⟨sameId, ((same_names_of_same_text _ _).1 _ _ sameId).2.2, ?_, checked, sameSum,
    ((same_names_of_same_text _ _).2.2.2 _ _ checked checked _ _ sameSum).2.2⟩
  intro same
  have tables := ((same_names_of_same_text _ _).1 _ _ same).1
  revert tables
  decide

end Mapper

end JsonSql
