import JsonSql.Proofs.ClauseParts
import JsonSql.Proofs.ColumnNames
import JsonSql.Proofs.Unrestricted
import JsonSql.Proofs.Words

/-!
# Conditions given as text

A text under `where` is the whole WHERE part if behind its blanks come the letters of
the keyword, whatever stands behind these; any other text is put behind the keyword.
So a condition on a column whose name begins with these letters stays without it, and
a text that begins with the keyword at once is set directly behind the table.  No other
query has a clause that does either.
-/

namespace JsonSql.Query

/-- The text begins with blanks and the letters of the keyword in any case. -/
structure Keyworded (text : String) (blanks letters rest : List Char) : Prop where
  shape : text.toList = blanks ++ (letters ++ rest)
  blank : ∀ char ∈ blanks, Text.isBlank char = true
  keyword : Text.caselessEq (String.ofList letters) "WHERE" = true

theorem isBlank_of_toLower {char : Char} (lower : char.toLower = 'w') :
    Text.isBlank char = false := by
  by_cases capital : char.val ≥ 'A'.val ∧ char.val ≤ 'Z'.val
  · have isUpper : char.isUpper = true := decide_eq_true capital
    have isAlpha : char.isAlpha = true := (Bool.or_eq_true _ _).mpr (.inl isUpper)
    exact Identifier.startsBare_not_blank ((Bool.or_eq_true _ _).mpr (.inl isAlpha))
  · have kept : char.toLower = char := dif_neg capital
    rw [← kept, lower]
    decide

namespace Keyworded

variable {text : String} {blanks letters rest : List Char}

theorem letters_shape (keyworded : Keyworded text blanks letters rest) :
    letters.length = 5 ∧ ∃ char more, letters = char :: more ∧ Text.isBlank char = false := by
  have same := Text.caselessEq_iff.mp keyworded.keyword
  rw [String.toList_ofList] at same
  have length : letters.length = 5 := by simpa using congrArg List.length same
  refine ⟨length, ?_⟩
  cases letters with
  | nil => cases length
  | cons char more => exact ⟨char, more, rfl, isBlank_of_toLower (List.cons.inj same).1⟩

theorem trimStart_eq (keyworded : Keyworded text blanks letters rest) :
    Text.trimStart text.toList = letters ++ rest := by
  obtain ⟨-, char, more, rfl, notBlank⟩ := keyworded.letters_shape
  rw [keyworded.shape, Text.trimStart, List.dropWhile_append_of_pos keyworded.blank,
    List.cons_append, List.dropWhile_cons_of_neg (by simp [notBlank])]

theorem rawWhereText_eq (keyworded : Keyworded text blanks letters rest) :
    rawWhereText text = text := by
  have length := keyworded.letters_shape.1
  rw [rawWhereText]
  simp only [keyworded.trimStart_eq, List.take_left' length, keyworded.keyword, if_true]

theorem rest_eq (keyworded : Keyworded text blanks letters rest)
    {others otherLetters otherRest : List Char}
    (other : Keyworded text others otherLetters otherRest) : otherRest = rest := by
  have same := keyworded.trimStart_eq.symm.trans other.trimStart_eq
  have lengths := keyworded.letters_shape.1.trans other.letters_shape.1.symm
  exact (List.append_inj same lengths).2.symm

end Keyworded

theorem rawWhereText_cases (text : String) :
    (∃ blanks letters rest, Keyworded text blanks letters rest) ∧ rawWhereText text = text ∨
      (¬ ∃ blanks letters rest, Keyworded text blanks letters rest) ∧
        rawWhereText text = " WHERE " ++ text := by
  obtain ⟨blanks, shape, blank⟩ := Text.trimStart_spec text.toList
  by_cases keyword : Text.caselessEq
      (String.ofList ((Text.trimStart text.toList).take 5)) "WHERE" = true
  · have keyworded : Keyworded text blanks ((Text.trimStart text.toList).take 5)
        ((Text.trimStart text.toList).drop 5) :=
      ⟨by rw [List.take_append_drop, ← shape], blank, keyword⟩
    exact .inl ⟨⟨_, _, _, keyworded⟩, keyworded.rawWhereText_eq⟩
  · refine .inr ⟨?_, if_neg keyword⟩
    rintro ⟨others, letters, rest, keyworded⟩
    apply keyword
    rw [keyworded.trimStart_eq, List.take_left' keyworded.letters_shape.1]
    exact keyworded.keyword

/-- Behind blanks the text begins with the keyword in any case, and no identifier goes on. -/
def BeginsWithKeyword (text : String) : Prop :=
  ∃ blanks letters rest, Keyworded text blanks letters rest ∧
    ∀ char ∈ rest.head?, Identifier.continuesBare char = false

/-- Behind blanks the text begins with a longer word that has the letters of the keyword. -/
def BeginsWithLongerWord (text : String) : Prop :=
  ∃ blanks letters rest, Keyworded text blanks letters rest ∧
    ∃ char ∈ rest.head?, Identifier.continuesBare char = true

theorem exists_keyworded_iff (text : String) :
    (∃ blanks letters rest, Keyworded text blanks letters rest) ↔
      BeginsWithKeyword text ∨ BeginsWithLongerWord text := by
  constructor
  · rintro ⟨blanks, letters, rest, keyworded⟩
    by_cases continued : ∃ char ∈ rest.head?, Identifier.continuesBare char = true
    · exact .inr ⟨blanks, letters, rest, keyworded, continued⟩
    · refine .inl ⟨blanks, letters, rest, keyworded, ?_⟩
      intro char first
      rw [Bool.eq_false_iff]
      exact fun continues => continued ⟨char, first, continues⟩
  · rintro (⟨_, _, _, keyworded, -⟩ | ⟨_, _, _, keyworded, -⟩)
    · exact ⟨_, _, _, keyworded⟩
    · exact ⟨_, _, _, keyworded⟩

theorem BeginsWithLongerWord.not_keyword {text : String} (longer : BeginsWithLongerWord text) :
    ¬ BeginsWithKeyword text := by
  obtain ⟨blanks, letters, rest, keyworded, char, first, continues⟩ := longer
  rintro ⟨_, _, otherRest, other, ends⟩
  rw [keyworded.rest_eq other] at ends
  rw [ends char first] at continues
  cases continues

theorem beginsWithKeyword_iff_of_keyworded {text : String}
    (keyworded : ∃ blanks letters rest, Keyworded text blanks letters rest) :
    BeginsWithKeyword text ↔ ¬ BeginsWithLongerWord text := by
  constructor
  · exact fun word longer => longer.not_keyword word
  · exact ((exists_keyworded_iff text).mp keyworded).resolve_right

theorem beginsWithKeyword_prefixed (text : String) : BeginsWithKeyword (" WHERE " ++ text) := by
  have keyworded : Keyworded (" WHERE " ++ text) [' '] "WHERE".toList (' ' :: text.toList) :=
    ⟨by simp, List.all_eq_true.mp rfl, rfl⟩
  refine ⟨_, _, _, keyworded, ?_⟩
  intro char first
  obtain rfl : ' ' = char := Option.some.inj first
  decide

theorem wherePart_of_text {query : Record} {text : String}
    (isText : rawWhere? query = some text) : wherePart query = rawWhereText text := by
  rw [wherePart, filterOf, isText, whereText]

theorem prefixed_ne_self (text : String) : " WHERE " ++ text ≠ text := by
  intro same
  have lengths := congrArg String.length same
  rw [String.length_append] at lengths
  have keyword : " WHERE ".length = 7 := by decide
  omega

/-- A text under `where` is the whole WHERE part if behind its blanks stand the letters of
the keyword, as a word or as the beginning of a longer one, and otherwise it is put behind
the keyword.  So the part begins with the keyword, and the text is taken whole exactly for
its keyword, unless the text begins with a longer word. -/
theorem text_taken_whole_for_its_letters (query : Record) (text : String)
    (isText : rawWhere? query = some text) :
    compileClause (.object query) = wherePart query ++ orderPart query ++ pagePart query ∧
      (wherePart query = text ↔ BeginsWithKeyword text ∨ BeginsWithLongerWord text) ∧
      (wherePart query ≠ text → wherePart query = " WHERE " ++ text) ∧
      (BeginsWithKeyword (wherePart query) ↔ ¬ BeginsWithLongerWord text) ∧
      ((wherePart query = text ↔ BeginsWithKeyword text) ↔ ¬ BeginsWithLongerWord text) := by
  refine ⟨compileClause_eq_parts query, ?_⟩
  rw [wherePart_of_text isText, ← exists_keyworded_iff]
  rcases rawWhereText_cases text with ⟨keyworded, whole⟩ | ⟨none, behind⟩
  · have word := beginsWithKeyword_iff_of_keyworded keyworded
    rw [whole]
    refine ⟨iff_of_true rfl keyworded, fun changed => absurd rfl changed, word, ?_⟩
    rw [eq_self, true_iff]
    exact word
  · obtain ⟨noKeyword, noLonger⟩ := not_or.mp ((exists_keyworded_iff text).not.mp none)
    have changed := prefixed_ne_self text
    rw [behind]
    refine ⟨iff_of_false changed none, fun _ => rfl,
      iff_of_true (beginsWithKeyword_prefixed text) noLonger, ?_⟩
    exact iff_of_true (iff_of_false changed noKeyword) noLonger

def keywordQuery : Record :=
  [("limit", .number (.integer 1)), ("where", .string "\u3000\twHeRe\u00E9 = 1")]

theorem keywordQuery_taken_whole :
    rawWhere? keywordQuery = some "\u3000\twHeRe\u00E9 = 1" ∧
      ¬ BeginsWithLongerWord "\u3000\twHeRe\u00E9 = 1" ∧
      BeginsWithKeyword (wherePart keywordQuery) ∧
      wherePart keywordQuery = "\u3000\twHeRe\u00E9 = 1" := by
  have isText : rawWhere? keywordQuery = some "\u3000\twHeRe\u00E9 = 1" := rfl
  have word : BeginsWithKeyword "\u3000\twHeRe\u00E9 = 1" := by
    refine ⟨"\u3000\t".toList, "wHeRe".toList, "\u00E9 = 1".toList,
      ⟨rfl, List.all_eq_true.mp rfl, rfl⟩, ?_⟩
    intro char first
    obtain rfl : '\u00E9' = char := Option.some.inj first
    decide
  have notLonger : ¬ BeginsWithLongerWord "\u3000\twHeRe\u00E9 = 1" :=
    fun longer => longer.not_keyword word
  obtain ⟨-, whole, -, keyword, -⟩ := text_taken_whole_for_its_letters keywordQuery _ isText
  exact ⟨isText, notLonger, keyword.mpr notLonger, whole.mpr (.inl word)⟩

def whereverQuery : Record := [("where", .string "wherever = 1")]

theorem whereverQuery_without_keyword :
    rawWhere? whereverQuery = some "wherever = 1" ∧
      ¬ BeginsWithKeyword "wherever = 1" ∧
      wherePart whereverQuery = "wherever = 1" ∧
      ¬ BeginsWithKeyword (wherePart whereverQuery) ∧
      compileClause (.object whereverQuery) = "wherever = 1" := by
  have longer : BeginsWithLongerWord "wherever = 1" :=
    ⟨[], "where".toList, "ver = 1".toList, ⟨rfl, by simp, rfl⟩, 'v', rfl, rfl⟩
  have whole : wherePart whereverQuery = "wherever = 1" := by decide
  refine ⟨rfl, longer.not_keyword, whole, ?_, by decide⟩
  rw [whole]
  exact longer.not_keyword

/-! ## Clauses directly behind a table -/

/-- A text that is not joined to the word before it: it is empty or begins with a blank. -/
def StandsApart (text : String) : Prop :=
  ∀ char ∈ text.toList.head?, Text.isBlank char = true

instance (text : String) : Decidable (StandsApart text) :=
  decidable_of_iff _ (Option.all_eq_true Text.isBlank text.toList.head?)

theorem standsApart_empty : StandsApart "" := by simp [StandsApart]

theorem standsApart_append_iff {first : String} (filled : first ≠ "") (second : String) :
    StandsApart (first ++ second) ↔ StandsApart first := by
  have someChar : first.toList ≠ [] := fun none => filled (String.toList_eq_nil_iff.mp none)
  rw [StandsApart, String.toList_append, List.head?_append_of_ne_nil _ someChar, StandsApart]

theorem StandsApart.append {first second : String} (apart : StandsApart first)
    (alsoApart : StandsApart second) : StandsApart (first ++ second) := by
  by_cases empty : first = ""
  · rw [empty, String.empty_append]
    exact alsoApart
  · exact (standsApart_append_iff empty second).mpr apart

theorem standsApart_prefixed {keyword : String} {letters : List Char}
    (opens : keyword.toList = ' ' :: letters) (text : String) :
    StandsApart (keyword ++ text) := by
  intro char first
  obtain rfl : ' ' = char := by simpa [opens] using first
  decide

theorem standsApart_orderByText (columns : List SortColumn) :
    StandsApart (orderByText columns) := by
  unfold orderByText
  split
  · exact standsApart_empty
  · exact standsApart_prefixed rfl _

theorem standsApart_pageText (limit offset : Option Number) :
    StandsApart (pageText limit offset) := by
  apply StandsApart.append
  · cases limit with
    | none => exact standsApart_empty
    | some number => exact standsApart_prefixed rfl number.text
  · cases offset with
    | none => exact standsApart_empty
    | some number => exact standsApart_prefixed rfl number.text

def OpensBare (text : String) : Prop := ∃ letters rest, Keyworded text [] letters rest

theorem Keyworded.standsApart_iff {text : String} {blanks letters rest : List Char}
    (keyworded : Keyworded text blanks letters rest) : StandsApart text ↔ ¬ OpensBare text := by
  have first (chars more : List Char) (bare : Keyworded text [] chars more) :
      ¬ StandsApart text := by
    obtain ⟨-, char, others, rfl, notBlank⟩ := bare.letters_shape
    intro apart
    have blank := apart char (by simp [bare.shape])
    rw [notBlank] at blank
    cases blank
  cases blanks with
  | nil => exact iff_of_false (first letters rest keyworded) (not_not_intro ⟨_, _, keyworded⟩)
  | cons blank blanks =>
      have apart : StandsApart text := by
        intro char here
        obtain rfl : blank = char := by simpa [keyworded.shape] using here
        exact keyworded.blank blank List.mem_cons_self
      exact iff_of_true apart fun ⟨letters, rest, bare⟩ => first letters rest bare apart

theorem standsApart_rawWhereText_iff (text : String) :
    StandsApart (rawWhereText text) ↔ ¬ OpensBare text := by
  rcases rawWhereText_cases text with ⟨⟨_, _, _, keyworded⟩, whole⟩ | ⟨none, behind⟩
  · rw [whole, keyworded.standsApart_iff]
  · rw [behind]
    refine iff_of_true (standsApart_prefixed rfl text) ?_
    exact fun ⟨letters, rest, bare⟩ => none ⟨[], letters, rest, bare⟩

def HasBareKeyword (query : Json) : Prop :=
  ∃ entries text, query = .object entries ∧ rawWhere? entries = some text ∧ OpensBare text

theorem hasBareKeyword_object_iff (query : Record) :
    HasBareKeyword (.object query) ↔ ∃ text, rawWhere? query = some text ∧ OpensBare text := by
  constructor
  · rintro ⟨entries, text, same, isText, bare⟩
    obtain rfl := Json.object.inj same
    exact ⟨text, isText, bare⟩
  · rintro ⟨text, isText, bare⟩
    exact ⟨query, text, rfl, isText, bare⟩

theorem standsApart_wherePart_iff (query : Record) :
    StandsApart (wherePart query) ↔ ¬ HasBareKeyword (.object query) := by
  rw [hasBareKeyword_object_iff]
  cases given : rawWhere? query with
  | some text =>
      rw [wherePart_of_text given, standsApart_rawWhereText_iff]
      simp
  | none =>
      refine iff_of_true ?_ (by simp)
      rw [wherePart, Filter.filterOf_eq_ofList given, Filter.whereText_ofList]
      split
      · exact standsApart_empty
      · exact standsApart_prefixed rfl _

theorem standsApart_compileClause_iff (query : Json) :
    StandsApart (compileClause query) ↔ ¬ HasBareKeyword query := by
  cases query with
  | object query =>
      have tail : StandsApart (orderPart query ++ pagePart query) :=
        (standsApart_orderByText _).append (standsApart_pageText _ _)
      rw [compileClause_eq_parts, String.append_assoc, ← standsApart_wherePart_iff]
      by_cases empty : wherePart query = ""
      · rw [empty, String.empty_append]
        exact iff_of_true tail standsApart_empty
      · exact standsApart_append_iff empty _
  | _ =>
      refine iff_of_true standsApart_empty ?_
      rintro ⟨_, _, isObject, -⟩
      cases isObject

/-- A clause is empty or begins with a blank, and so stands apart from the statement that it
is set behind, unless the query has a text under `where` that begins with the letters of the
keyword at once. -/
theorem clause_stands_apart_iff (query : Json) :
    (StandsApart (compileClause query) ↔ ¬ HasBareKeyword query) ∧
      ∀ (session : Session) (executor : Executor) (mapper : Mapper) (request : Request)
          (plan : Plan), request.query? = some query →
        request.plan mapper.idAttribute = .ok plan →
        ∃ head clause,
          (session.perform executor mapper request.aboutAllRows).sent = [head] ∧
          (session.perform executor mapper request).sent = [head ++ clause] ∧
          (StandsApart clause ↔ ¬ HasBareKeyword query) := by
  have apart := standsApart_compileClause_iff query
  refine ⟨apart, ?_⟩
  intro session executor mapper request plan about accepted
  obtain ⟨head, overAll, sent⟩ :=
    Session.sent_perform_of_query? about accepted session executor
  exact ⟨head, compileClause query, overAll, sent, apart⟩

def bareKeywordQuery : Record := [("where", .string "WHERE a = 1")]

def ordersMapper : Mapper := ⟨"order", "orders", "id"⟩

theorem bareKeywordQuery_joined_to_table :
    compileClause (.object bareKeywordQuery) = "WHERE a = 1" ∧
      ¬ StandsApart (compileClause (.object bareKeywordQuery)) ∧
      ∀ executor, (Session.perform { } executor ordersMapper
        (.destroyAll (.object bareKeywordQuery))).sent =
          ["DELETE FROM \"orders\"WHERE a = 1"] := by
  refine ⟨by decide, by decide, ?_⟩
  intro executor
  rw [Session.sent_perform_single rfl executor]
  decide

def spacedKeywordQuery : Record :=
  [("order", .string "id"), ("where", .string "\tWHERE a = 1")]

theorem spacedKeywordQuery_apart_from_table :
    (∃ plan, (Request.destroyAll (.object spacedKeywordQuery)).plan
        ordersMapper.idAttribute = .ok plan) ∧
      ¬ HasBareKeyword (.object spacedKeywordQuery) ∧
      StandsApart (compileClause (.object spacedKeywordQuery)) ∧
      ∀ executor, ∃ head clause,
        (Session.perform { } executor ordersMapper
          (.destroyAll (.object spacedKeywordQuery))).sent = [head ++ clause] ∧
        head ++ clause = "DELETE FROM \"orders\"\tWHERE a = 1 ORDER BY 'id' ASC" ∧
        StandsApart clause := by
  obtain ⟨apart, statements⟩ := clause_stands_apart_iff (.object spacedKeywordQuery)
  have stands : StandsApart (compileClause (.object spacedKeywordQuery)) := by decide
  have noBare := apart.mp stands
  have planned : (Request.destroyAll (.object spacedKeywordQuery)).plan
      ordersMapper.idAttribute = .ok _ := rfl
  refine ⟨⟨_, planned⟩, noBare, stands, ?_⟩
  intro executor
  obtain ⟨head, clause, -, sent, clauseApart⟩ :=
    statements { } executor ordersMapper _ _ rfl planned
  refine ⟨head, clause, sent, ?_, clauseApart.mpr noBare⟩
  have whole : (Session.perform { } executor ordersMapper
      (.destroyAll (.object spacedKeywordQuery))).sent =
        ["DELETE FROM \"orders\"\tWHERE a = 1 ORDER BY 'id' ASC"] := by
    rw [Session.sent_perform_single planned executor]
    decide
  rw [whole] at sent
  exact (List.cons.inj sent).1.symm

end JsonSql.Query
