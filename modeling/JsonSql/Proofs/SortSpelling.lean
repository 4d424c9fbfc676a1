import Mathlib.Data.List.Forall2
import JsonSql.Proofs.UpperCase
import JsonSql.Proofs.Words
import JsonSql.Query

/-!
# Spellings of a sort order

A column and its direction are written as one token with a space between them or as a
pair, and the whole order as one text with commas or as a list.  All spellings are read
as the same columns.  A direction is known by its words alone, so it may also be given
by the keyword that stands for it, which is a tidy text and is read back.
-/

namespace JsonSql

namespace Text

theorem flatMap_upperChar_joined (pieces : List (List Char)) :
    ([' '].intercalate pieces).flatMap upperChar =
      [' '].intercalate (pieces.map fun piece => piece.flatMap upperChar) := by
  have space : upperChar ' ' = [' '] := by decide
  induction pieces with
  | nil => rfl
  | cons first rest ih =>
      cases rest with
      | nil => simp
      | cons second rest =>
          rw [List.intercalate_cons_cons, List.map_cons, List.map_cons,
            List.intercalate_cons_cons, ← List.map_cons, ← ih]
          simp [space]

theorem IsWord.upper {word : List Char} (isWord : IsWord word) :
    IsWord (word.flatMap upperChar) := by
  constructor
  · obtain ⟨char, rest, rfl⟩ := List.exists_cons_of_ne_nil isWord.filled
    simp [upperChar_ne_nil]
  · intro form member
    obtain ⟨char, inWord, inForms⟩ := List.mem_flatMap.mp member
    rw [Bool.eq_false_iff]
    intro blank
    have same := eq_of_mem_upperChar inForms (.inl blank)
    rw [same, isWord.noBlank char inWord] at blank
    cases blank

def upperWords (text : String) : List (List Char) :=
  (words text.toList).map fun word => word.flatMap upperChar

theorem isWord_of_mem_upperWords {text : String} :
    ∀ word ∈ upperWords text, IsWord word := by
  intro word member
  obtain ⟨lower, inWords, rfl⟩ := List.mem_map.mp member
  exact (isWord_of_mem_words inWords).upper

theorem toList_upper_squeeze (text : String) :
    (upper (squeeze text)).toList = [' '].intercalate (upperWords text) := by
  rw [toList_upper, toList_squeeze, flatMap_upperChar_joined, upperWords]

theorem squeeze_upper_squeeze (text : String) :
    squeeze (upper (squeeze text)) = upper (squeeze text) :=
  squeeze_joined isWord_of_mem_upperWords (toList_upper_squeeze text)

theorem mem_upper_squeeze {text : String} {char : Char} (mark : char.toNat < 0x41)
    (member : char ∈ (upper (squeeze text)).toList) : char = ' ' ∨ char ∈ text.toList := by
  rw [toList_upper_squeeze] at member
  refine (mem_joined member).imp_right ?_
  rintro ⟨piece, inUpperWords, inPiece⟩
  obtain ⟨word, inWords, rfl⟩ := List.mem_map.mp inUpperWords
  obtain ⟨lower, inWord, inForms⟩ := List.mem_flatMap.mp inPiece
  obtain rfl := eq_of_mem_upperChar inForms (.inr mark)
  exact mem_of_mem_words inWords inWord

end Text

namespace Direction

open Text

theorem parse_congr {left right : String}
    (same : words left.toList = words right.toList) : parse left = parse right := by
  rw [parse, parse, squeeze_congr same]

theorem keyword_parse (text : String) :
    (parse text).keyword =
      if upper (squeeze text) = "" then "ASC" else upper (squeeze text) := by
  unfold parse
  by_cases empty : upper (squeeze text) = ""
  · simp [empty, keyword]
  · by_cases ascends : upper (squeeze text) = "ASC"
    · simp [ascends, keyword]
    · by_cases descends : upper (squeeze text) = "DESC"
      · simp [descends, keyword]
      · simp [empty, ascends, descends, keyword]

theorem parse_keyword (text : String) : parse (parse text).keyword = parse text := by
  rw [keyword_parse]
  split
  · rename_i empty
    have ascends : parse text = ascending := by simp [parse, empty]
    rw [ascends]
    decide
  · rw [parse, squeeze_upper_squeeze, upper_upper, ← parse]

theorem isTidy_keyword (text : String) : IsTidy (parse text).keyword.toList := by
  rw [keyword_parse]
  split
  · have isWord : IsWord "ASC".toList := isWord_of_any (by simp) rfl
    exact isWord.isTidy
  · rename_i filled
    rw [toList_upper_squeeze]
    apply isTidy_joined _ isWord_of_mem_upperWords
    intro noWord
    apply filled
    rw [← String.toList_inj, toList_upper_squeeze, noWord]
    rfl

theorem comma_not_mem_keyword {text : String} (plain : ',' ∉ text.toList) :
    ',' ∉ (parse text).keyword.toList := by
  rw [keyword_parse]
  split
  · decide
  · intro member
    rcases mem_upper_squeeze (by decide) member with space | inText
    · cases space
    · exact plain inText

end Direction

/-- A column with the text of its direction, neither of which can be taken for more than
one term. -/
structure SortTerm where
  column : String
  direction : String
  isWord : Text.IsWord column.toList
  columnPlain : ',' ∉ column.toList
  directionPlain : ',' ∉ direction.toList

namespace SortTerm

def sorted (term : SortTerm) : SortColumn := ⟨term.column, .parse term.direction⟩

def token (term : SortTerm) : String := term.column ++ " " ++ term.direction

def stated (term : SortTerm) : SortTerm where
  column := term.column
  direction := (Direction.parse term.direction).keyword
  isWord := term.isWord
  columnPlain := term.columnPlain
  directionPlain := Direction.comma_not_mem_keyword term.directionPlain

theorem sorted_stated (term : SortTerm) : term.stated.sorted = term.sorted := by
  rw [sorted, sorted, stated, Direction.parse_keyword]

theorem toList_token (term : SortTerm) :
    term.token.toList = term.column.toList ++ ' ' :: term.direction.toList := by
  simp [token]

theorem words_token (term : SortTerm) :
    Text.words term.token.toList =
      term.column.toList :: Text.words term.direction.toList := by
  rw [toList_token, Text.words_append_blank (by decide), term.isWord.words_eq,
    List.singleton_append]

theorem cut_token (term : SortTerm) :
    Text.cut (· == ',') term.token.toList = [term.token.toList] := by
  apply Text.cut_of_all_not
  intro char member
  rw [beq_eq_false_iff_ne]
  rintro rfl
  simp [toList_token, term.columnPlain, term.directionPlain] at member

end SortTerm

namespace SortColumn

open Text

theorem ofToken?_of_words {token column : List Char} {direction : String}
    (shape : words token = column :: words direction.toList) :
    ofToken? token = some ⟨String.ofList column, .parse direction⟩ := by
  obtain ⟨front, behind⟩ := splitAtBlank_trim shape
  have filled : column ≠ [] :=
    (isWord_of_mem_words (shape ▸ List.mem_cons_self)).filled
  have sameDirection : Direction.parse (String.ofList (splitAtBlank (trim token)).2) =
      Direction.parse direction :=
    Direction.parse_congr (by rw [String.toList_ofList, behind])
  unfold ofToken?
  rcases parts : splitAtBlank (trim token) with ⟨_ | ⟨first, rest⟩, remainder⟩
  · rw [parts] at front
    exact absurd front.symm filled
  · rw [parts] at front sameDirection
    obtain rfl : first :: rest = column := front
    exact congrArg (fun direction => some (SortColumn.mk _ direction)) sameDirection

theorem ofToken?_token (term : SortTerm) :
    ofToken? term.token.toList = some term.sorted := by
  rw [ofToken?_of_words term.words_token, String.ofList_toList, SortTerm.sorted]

theorem ofToken?_cons_blank {blank : Char} (isBlank : isBlank blank = true)
    (token : List Char) : ofToken? (blank :: token) = ofToken? token := by
  have atStart : trimStart (blank :: token) = trimStart token :=
    List.dropWhile_cons_of_pos isBlank
  rw [ofToken?, ofToken?, trim, trim, atStart]

theorem filterMap_cut_cons_blank {blank : Char} (isBlank : isBlank blank = true)
    (noComma : blank ≠ ',') (chars : List Char) :
    (cut (· == ',') (blank :: chars)).filterMap ofToken? =
      (cut (· == ',') chars).filterMap ofToken? := by
  obtain ⟨first, pieces, shape⟩ :=
    List.exists_cons_of_ne_nil (cut_ne_nil (· == ',') chars)
  have inside : (blank == ',') = false := beq_eq_false_iff_ne.mpr noComma
  rw [cut, inside, shape]
  simp only [Bool.false_eq_true, if_false, List.filterMap_cons, ofToken?_cons_blank isBlank]

theorem ofText_joined (terms : List SortTerm) (filled : terms ≠ []) :
    ofText (", ".intercalate (terms.map SortTerm.token)) = terms.map SortTerm.sorted := by
  induction terms with
  | nil => exact absurd rfl filled
  | cons first rest ih =>
      cases rest with
      | nil => simp [ofText, first.cut_token, ofToken?_token]
      | cons second rest =>
          have split : (", ".intercalate ((first :: second :: rest).map SortTerm.token)).toList =
              first.token.toList ++ ',' :: ' ' ::
                (", ".intercalate ((second :: rest).map SortTerm.token)).toList := by
            simp [String.intercalate_cons_cons]
          have later := ih (by simp)
          rw [ofText] at later ⊢
          rw [split, cut_append_cons (by decide), List.filterMap_append, first.cut_token,
            filterMap_cut_cons_blank (by decide) (by decide), later]
          simp [ofToken?_token]

end SortColumn

/-! ## Spellings -/

inductive WritesTerm (term : SortTerm) : Json → Prop
  | token : WritesTerm term (.string term.token)
  | pair : WritesTerm term (.array [.string term.column, .string term.direction])

/-- The whole order as one text, or as a list of tokens and pairs. -/
inductive WritesOrder (terms : List SortTerm) : Json → Prop
  | text : WritesOrder terms (.string (", ".intercalate (terms.map SortTerm.token)))
  | list {items : List Json} : List.Forall₂ WritesTerm terms items →
      WritesOrder terms (.array items)

def Restates (terms written : List SortTerm) : Prop :=
  List.Forall₂ (fun term other => other = term ∨ other = term.stated) terms written

theorem Restates.map_sorted {terms written : List SortTerm} (same : Restates terms written) :
    written.map SortTerm.sorted = terms.map SortTerm.sorted := by
  induction same with
  | nil => rfl
  | cons here _ ih =>
      rw [List.map_cons, List.map_cons, ih]
      rcases here with rfl | rfl
      · rfl
      · rw [SortTerm.sorted_stated]

theorem WritesTerm.ofJson?_eq {term : SortTerm} {value : Json}
    (writes : WritesTerm term value) : SortColumn.ofJson? value = some term.sorted := by
  cases writes with
  | token => exact SortColumn.ofToken?_token term
  | pair => rfl

theorem filterMap_ofJson? {terms : List SortTerm} {items : List Json}
    (writes : List.Forall₂ WritesTerm terms items) :
    items.filterMap SortColumn.ofJson? = terms.map SortTerm.sorted := by
  induction writes with
  | nil => rfl
  | cons here _ ih => rw [List.filterMap_cons, here.ofJson?_eq, List.map_cons, ih]

theorem not_all_blank {terms : List SortTerm} (filled : terms ≠ []) :
    (", ".intercalate (terms.map SortTerm.token)).toList.all Text.isBlank = false := by
  obtain ⟨first, rest, rfl⟩ := List.exists_cons_of_ne_nil filled
  obtain ⟨char, column, shape⟩ := List.exists_cons_of_ne_nil first.isWord.filled
  have notBlank : Text.isBlank char = false := first.isWord.noBlank char (by simp [shape])
  have opens : first.token.toList = char :: (column ++ ' ' :: first.direction.toList) := by
    rw [first.toList_token, shape, List.cons_append]
  cases rest <;> simp [String.intercalate_cons_cons, opens, notBlank]

theorem WritesOrder.list?_eq {terms : List SortTerm} {value : Json} (filled : terms ≠ [])
    (writes : WritesOrder terms value) :
    SortColumn.list? value = some (terms.map SortTerm.sorted) := by
  cases writes with
  | text =>
      rw [SortColumn.list?, not_all_blank filled, SortColumn.ofText_joined terms filled]
      rfl
  | list items =>
      rw [← filterMap_ofJson? items]
      cases items with
      | nil => exact absurd rfl filled
      | cons => rfl

theorem Query.orderOf_eq {before after : List String} {key : String}
    (place : orderKeys = before ++ key :: after) {query : Record} {value : Json}
    (given : query.get? key = some value) {columns : List SortColumn}
    (read : SortColumn.list? value = some columns)
    (earlier : ∀ other ∈ before, (query.get? other).bind SortColumn.list? = none) :
    orderOf query = columns := by
  have found : orderKeys.findSome? (fun key => (query.get? key).bind SortColumn.list?) =
      some columns := by
    rw [place, List.findSome?_append, List.findSome?_eq_none_iff.mpr earlier,
      List.findSome?_cons, given, Option.bind_some, read]
    rfl
  rw [orderOf, found, Option.getD_some]

/-- The spellings of an order agree.  Written as one text with commas, as a list of
tokens, as a list of pairs or as a list of both, under any of the keys for it whose
predecessors hold no order, the terms are read as their columns and directions, in
order and with none lost, also if the keyword of its direction is written in the place
of some direction.  Every direction is read back from its keyword, which is a tidy
text. -/
theorem order_spellings_agree :
    (∀ terms written : List SortTerm, terms ≠ [] → Restates terms written →
      ∀ value, WritesOrder written value →
      ∀ before key after, Query.orderKeys = before ++ key :: after →
      ∀ query : Record, query.get? key = some value →
        (∀ other ∈ before, (query.get? other).bind SortColumn.list? = none) →
        (Query.ofJson (.object query)).order = terms.map SortTerm.sorted) ∧
    ∀ text, Direction.parse (Direction.parse text).keyword = Direction.parse text ∧
      Text.IsTidy (Direction.parse text).keyword.toList := by
  constructor
  · intro terms written filled same value writes before key after place query given earlier
    have alsoFilled : written ≠ [] := by
      rintro rfl
      exact filled (List.forall₂_nil_right_iff.mp same)
    rw [← same.map_sorted]
    exact Query.orderOf_eq place given (writes.list?_eq alsoFilled) earlier
  · intro text
    exact ⟨Direction.parse_keyword text, Direction.isTidy_keyword text⟩

/-- A long s becomes an S and a ligature two letters, and the blanks are of many kinds. -/
def oddTerms : List SortTerm :=
  [ ⟨"a", "aſc", Text.isWord_of_any (by simp) rfl, by simp, by simp⟩,
    ⟨"b", "\u2003desc\t nulls  laﬆ ", Text.isWord_of_any (by simp) rfl, by simp, by simp⟩,
    ⟨"c\"d", "\u00A0", Text.isWord_of_any (by simp) rfl, by simp, by simp⟩ ]

def oddOrder : Json := .string (", ".intercalate (oddTerms.map SortTerm.token))

def oddQuery : Record :=
  [("sort", .string "z"), ("orderBy", oddOrder), ("order", .array [])]

theorem oddTerms_read :
    oddTerms ≠ [] ∧ Restates oddTerms oddTerms ∧ WritesOrder oddTerms oddOrder ∧
      Query.orderKeys = ["order"] ++ "orderBy" :: ["sort"] ∧
      oddQuery.get? "orderBy" = some oddOrder ∧
      (oddQuery.get? "order").bind SortColumn.list? = none ∧
      (Query.ofJson (.object oddQuery)).order =
        [⟨"a", .ascending⟩, ⟨"b", .other "DESC NULLS LAST"⟩, ⟨"c\"d", .ascending⟩] := by
  have filled : oddTerms ≠ [] := by simp [oddTerms]
  have same : Restates oddTerms oddTerms := List.forall₂_same.mpr fun _ _ => .inl rfl
  have noneBefore : ∀ other ∈ ["order"],
      (oddQuery.get? other).bind SortColumn.list? = none := by
    intro other member
    obtain rfl := List.mem_singleton.mp member
    rfl
  have read := order_spellings_agree.1 oddTerms oddTerms filled same oddOrder .text ["order"]
    "orderBy" ["sort"] rfl oddQuery rfl noneBefore
  refine ⟨filled, same, .text, rfl, rfl, rfl, read.trans ?_⟩
  decide +kernel

end JsonSql
