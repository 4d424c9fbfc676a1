import Mathlib.Logic.ExistsUnique
import JsonSql.Proofs.Quoting

/-!
# The pattern of column names

Column names are given by a regular expression: a letter or an underscore with
letters, digits and signs behind it, or letters between double quotes, where a
quote is a letter only if it stands twice.  The texts that the pattern is found in
are the bare identifiers and the quoted forms of all texts that are not empty, and
these are the names that pass the check.
-/

namespace JsonSql

inductive Pattern where
  | start
  | finish
  | oneOf (ranges : List (Char × Char))
  | noneOf (ranges : List (Char × Char))
  | sequence (first second : Pattern)
  | either (first second : Pattern)
  | many (repeated : Pattern)
  deriving Repr

namespace Pattern

def isWithin (ranges : List (Char × Char)) (char : Char) : Bool :=
  ranges.any fun range => range.1 ≤ char && char ≤ range.2

/-- Any number of pieces one behind the other, each of them in its place. -/
inductive Repeated (piece : List Char → List Char → List Char → Prop) :
    List Char → List Char → List Char → Prop
  | none (before after : List Char) : Repeated piece before [] after
  | more {before text rest after : List Char} : piece before text (rest ++ after) →
      Repeated piece (before ++ text) rest after →
      Repeated piece before (text ++ rest) after

/-- A text matches between what stands before and after it.  The anchors hold at
the two ends of the whole text only, and what is not excluded matches, line breaks
too. -/
def Matches : Pattern → List Char → List Char → List Char → Prop
  | start, before, text, _ => before = [] ∧ text = []
  | finish, _, text, after => text = [] ∧ after = []
  | oneOf ranges, _, text, _ => ∃ char, isWithin ranges char = true ∧ text = [char]
  | noneOf ranges, _, text, _ => ∃ char, isWithin ranges char = false ∧ text = [char]
  | sequence first second, before, text, after =>
      ∃ left right, text = left ++ right ∧ first.Matches before left (right ++ after) ∧
        second.Matches (before ++ left) right after
  | either first second, before, text, after =>
      first.Matches before text after ∨ second.Matches before text after
  | many repeated, before, text, after => Repeated repeated.Matches before text after

def atLeastOnce (repeated : Pattern) : Pattern := sequence repeated (many repeated)

def IsFoundIn (pattern : Pattern) (text : List Char) : Prop :=
  ∃ before found after, text = before ++ (found ++ after) ∧
    pattern.Matches before found after

/-! ## The pattern -/

def letters : List (Char × Char) := [('A', 'Z'), ('a', 'z')]

def digits : List (Char × Char) := [('0', '9')]

def mark (char : Char) : List (Char × Char) := [(char, char)]

/-- The expression `[A-Za-z_][A-Za-z0-9_$#]*` -/
def bareName : Pattern :=
  sequence (oneOf (letters ++ mark '_'))
    (many (oneOf (letters ++ digits ++ mark '_' ++ mark '$' ++ mark '#')))

def quoteMark : Pattern := oneOf (mark '"')

/-- The expression `[^"]|""` -/
def quotedLetter : Pattern := either (noneOf (mark '"')) (sequence quoteMark quoteMark)

/-- The expression `"(?:[^"]|"")+"` -/
def quotedName : Pattern :=
  sequence quoteMark (sequence (atLeastOnce quotedLetter) quoteMark)

def columnName : Pattern :=
  sequence start (sequence (either bareName quotedName) finish)

theorem isWithin_append (first second : List (Char × Char)) (char : Char) :
    isWithin (first ++ second) char = (isWithin first char || isWithin second char) :=
  List.any_append

theorem isWithin_singleton (first last char : Char) :
    isWithin [(first, last)] char = (decide (first ≤ char) && decide (char ≤ last)) :=
  Bool.or_false _

theorem isWithin_mark (marked char : Char) :
    isWithin (mark marked) char = (char == marked) := by
  rw [mark, isWithin_singleton, Bool.eq_iff_iff, Bool.and_eq_true, decide_eq_true_iff,
    decide_eq_true_iff, beq_iff_eq]
  constructor
  · rintro ⟨atLeast, atMost⟩
    exact Char.le_antisymm atMost atLeast
  · rintro rfl
    exact ⟨Char.le_refl _, Char.le_refl _⟩

theorem isWithin_letters (char : Char) : isWithin letters char = char.isAlpha := by
  have capitals : isWithin [('A', 'Z')] char = char.isUpper :=
    (isWithin_singleton 'A' 'Z' char).trans (Bool.decide_and ..).symm
  have others : isWithin [('a', 'z')] char = char.isLower := isWithin_singleton 'a' 'z' char
  have parts := isWithin_append [('A', 'Z')] [('a', 'z')] char
  rwa [capitals, others] at parts

theorem isWithin_digits (char : Char) : isWithin digits char = char.isDigit :=
  isWithin_singleton '0' '9' char

theorem isWithin_startsBare (char : Char) :
    isWithin (letters ++ mark '_') char = Identifier.startsBare char := by
  rw [isWithin_append, isWithin_letters, isWithin_mark, Identifier.startsBare]

theorem isWithin_continuesBare (char : Char) :
    isWithin (letters ++ digits ++ mark '_' ++ mark '$' ++ mark '#') char =
      Identifier.continuesBare char := by
  simp only [isWithin_append, isWithin_letters, isWithin_digits, isWithin_mark]
  rfl

variable {before text after : List Char}

/-- Pieces that are the spellings of one character each are together the spelling of
a text, whatever stands around them. -/
theorem repeated_iff {piece : List Char → List Char → List Char → Prop}
    (allowed : Char → Bool) (spelling : Char → List Char)
    (onePiece : ∀ before text after, piece before text after ↔
      ∃ char, allowed char = true ∧ text = spelling char) :
    Repeated piece before text after ↔
      ∃ chars : List Char, chars.all allowed = true ∧ text = chars.flatMap spelling := by
  constructor
  · intro pieces
    induction pieces with
    | none => exact ⟨[], rfl, rfl⟩
    | more first _ ih =>
        obtain ⟨char, fits, rfl⟩ := (onePiece _ _ _).mp first
        obtain ⟨chars, fit, rfl⟩ := ih
        exact ⟨char :: chars, by simp [fits, fit], rfl⟩
  · rintro ⟨chars, fit, rfl⟩
    -- What is spelled so far stands before the next piece, so it grows along the way.
    induction chars generalizing before with
    | nil => exact .none before after
    | cons char chars ih =>
        obtain ⟨fits, fit⟩ := Bool.and_eq_true _ _ |>.mp fit
        have first := (onePiece before (spelling char) (chars.flatMap spelling ++ after)).mpr
          ⟨char, fits, rfl⟩
        exact .more first (ih fit)

theorem matches_oneOf_iff (ranges : List (Char × Char)) :
    (oneOf ranges).Matches before text after ↔
      ∃ char, isWithin ranges char = true ∧ text = [char] := Iff.rfl

theorem matches_sequence_iff (first second : Pattern) :
    (sequence first second).Matches before text after ↔
      ∃ left right, text = left ++ right ∧ first.Matches before left (right ++ after) ∧
        second.Matches (before ++ left) right after := Iff.rfl

theorem matches_many_oneOf_iff (ranges : List (Char × Char)) :
    (many (oneOf ranges)).Matches before text after ↔
      text.all (isWithin ranges) = true := by
  have pieces : (many (oneOf ranges)).Matches before text after ↔ _ :=
    repeated_iff (isWithin ranges) (fun char => [char]) fun _ _ _ => matches_oneOf_iff ranges
  rw [pieces]
  simp only [List.flatMap_singleton', exists_eq_right']

theorem matches_bareName_iff :
    bareName.Matches before text after ↔ ∃ first rest, text = first :: rest ∧
      Identifier.startsBare first = true ∧ rest.all Identifier.continuesBare = true := by
  have classes : isWithin (letters ++ digits ++ mark '_' ++ mark '$' ++ mark '#') =
      Identifier.continuesBare := funext isWithin_continuesBare
  simp only [bareName, matches_sequence_iff, matches_many_oneOf_iff, matches_oneOf_iff,
    isWithin_startsBare, classes]
  constructor
  · rintro ⟨left, rest, rfl, ⟨first, starts, rfl⟩, continues⟩
    exact ⟨first, rest, rfl, starts, continues⟩
  · rintro ⟨first, rest, rfl, starts, continues⟩
    exact ⟨[first], rest, rfl, ⟨first, starts, rfl⟩, continues⟩

theorem matches_quoteMark_iff : quoteMark.Matches before text after ↔ text = ['"'] := by
  rw [quoteMark, matches_oneOf_iff]
  simp [isWithin_mark]

theorem matches_quotedLetter_iff :
    quotedLetter.Matches before text after ↔
      ∃ char, text = Identifier.doubleQuotes [char] := by
  have single : (noneOf (mark '"')).Matches before text after ↔
      ∃ char, char ≠ '"' ∧ text = [char] := by
    simp [Matches, isWithin_mark]
  have pair : (sequence quoteMark quoteMark).Matches before text after ↔
      text = ['"', '"'] := by
    rw [matches_sequence_iff]
    simp [matches_quoteMark_iff]
  have alternatives : quotedLetter.Matches before text after ↔ _ := or_congr single pair
  rw [alternatives]
  constructor
  · rintro (⟨char, other, rfl⟩ | rfl)
    · exact ⟨char, by simp [Identifier.doubleQuotes, other]⟩
    · exact ⟨'"', rfl⟩
  · rintro ⟨char, rfl⟩
    by_cases quoted : char = '"'
    · subst quoted
      exact .inr rfl
    · exact .inl ⟨char, quoted, by simp [Identifier.doubleQuotes, quoted]⟩

theorem flatMap_doubleQuotes (chars : List Char) :
    (chars.flatMap fun char => Identifier.doubleQuotes [char]) =
      Identifier.doubleQuotes chars := by
  induction chars with
  | nil => rfl
  | cons char chars ih =>
      rw [List.flatMap_cons, ih]
      by_cases quoted : char = '"' <;> simp [Identifier.doubleQuotes, quoted]

theorem matches_many_quotedLetter_iff :
    (many quotedLetter).Matches before text after ↔
      ∃ chars, text = Identifier.doubleQuotes chars := by
  have onePiece (before text after : List Char) : quotedLetter.Matches before text after ↔
      ∃ char, true = true ∧ text = Identifier.doubleQuotes [char] := by
    rw [matches_quotedLetter_iff]
    simp
  have pieces : (many quotedLetter).Matches before text after ↔ _ :=
    repeated_iff (fun _ => true) (fun char => Identifier.doubleQuotes [char]) onePiece
  rw [pieces]
  simp [flatMap_doubleQuotes]

theorem matches_atLeastOnce_quotedLetter_iff :
    (atLeastOnce quotedLetter).Matches before text after ↔
      ∃ chars, chars ≠ [] ∧ text = Identifier.doubleQuotes chars := by
  simp only [atLeastOnce, matches_sequence_iff, matches_quotedLetter_iff,
    matches_many_quotedLetter_iff]
  constructor
  · rintro ⟨_, _, rfl, ⟨char, rfl⟩, chars, rfl⟩
    refine ⟨char :: chars, by simp, ?_⟩
    rw [← flatMap_doubleQuotes (char :: chars), List.flatMap_cons, flatMap_doubleQuotes]
  · rintro ⟨chars, filled, rfl⟩
    cases chars with
    | nil => exact absurd rfl filled
    | cons char chars =>
        refine ⟨_, _, ?_, ⟨char, rfl⟩, chars, rfl⟩
        rw [← flatMap_doubleQuotes (char :: chars), List.flatMap_cons, flatMap_doubleQuotes]

theorem matches_quotedName_iff :
    quotedName.Matches before text after ↔
      ∃ name : String, name ≠ "" ∧ text = (Identifier.quote name).toList := by
  simp only [quotedName, matches_sequence_iff, matches_quoteMark_iff,
    matches_atLeastOnce_quotedLetter_iff]
  constructor
  · rintro ⟨_, _, rfl, rfl, _, _, rfl, ⟨chars, filled, rfl⟩, rfl⟩
    exact ⟨String.ofList chars, by simpa using filled, by simp [Identifier.quote]⟩
  · rintro ⟨name, filled, rfl⟩
    refine ⟨_, _, ?_, rfl, _, _, rfl, ⟨name.toList, by simpa using filled, rfl⟩, rfl⟩
    simp [Identifier.quote]

/-! ## Names that the pattern is found in -/

theorem isFoundIn_columnName_iff (text : List Char) :
    columnName.IsFoundIn text ↔
      bareName.Matches [] text [] ∨ quotedName.Matches [] text [] := by
  constructor
  · -- The two anchors leave nothing before and nothing behind what is found.
    rintro ⟨_, _, _, rfl, _, _, rfl, ⟨rfl, rfl⟩, _, _, rfl, found, rfl, rfl⟩
    rw [List.append_nil, List.append_nil]
    exact found
  · intro found
    exact ⟨[], text, [], by simp, [], text, rfl, ⟨rfl, rfl⟩, text, [], by simp, found,
      rfl, rfl⟩

end Pattern

namespace Identifier

theorem isColumnName_iff_isFoundIn (field : String) :
    IsColumnName field ↔ Pattern.columnName.IsFoundIn field.toList := by
  rw [Pattern.isFoundIn_columnName_iff, Pattern.matches_bareName_iff,
    Pattern.matches_quotedName_iff]
  constructor
  · rintro (⟨starts, continues⟩ | filled)
    · exact .inl ⟨_, _, by simp, starts, continues⟩
    · exact .inr ⟨_, filled, rfl⟩
  · rintro (⟨first, rest, chars, starts, continues⟩ | ⟨name, filled, chars⟩)
    · rw [← String.ofList_toList (s := field), chars]
      exact .bare starts continues
    · rw [String.toList_inj.mp chars]
      exact .quoted filled

theorem quote_injective {first second : String} (same : quote first = quote second) :
    first = second := by
  have read := congrArg unquote? same
  simpa using read

theorem checkColumnName_eq_ok_iff (field : String) :
    checkColumnName field = .ok () ↔ IsColumnName field := by
  rcases checkColumnName_cases field with ⟨named, accepted⟩ | ⟨other, cause, refused⟩
  · simp [named, accepted]
  · simp [other, refused]

theorem isColumnName_quote_iff (name : String) : IsColumnName (quote name) ↔ name ≠ "" := by
  constructor
  · intro named
    generalize same : quote name = field at named
    cases named with
    | @bare first rest starts _ =>
        have texts : String.ofList (first :: rest) ++ "" = quote name ++ "" := by rw [same]
        exact absurd texts (bare_ne_quoted starts _ _ _)
    | quoted filled => rwa [quote_injective same]
  · exact .quoted

/-- A field passes the check exactly if the pattern of column names is found in it:
if it is a bare identifier, or the quoted form of a text that is not empty, which is
then the only such text.  So every text but the empty one passes once it is
quoted. -/
theorem accepted_iff_pattern_found (field : String) :
    (checkColumnName field = .ok () ↔ Pattern.columnName.IsFoundIn field.toList) ∧
    (checkColumnName field = .ok () ↔
      (∃ first rest, field = String.ofList (first :: rest) ∧ startsBare first = true ∧
        rest.all continuesBare = true) ∨
      ∃! name, name ≠ "" ∧ field = quote name) ∧
    ∀ name, checkColumnName (quote name) = .ok () ↔ name ≠ "" := by
  refine ⟨?_, ?_, ?_⟩
  · rw [checkColumnName_eq_ok_iff, isColumnName_iff_isFoundIn]
  · rw [checkColumnName_eq_ok_iff]
    constructor
    · rintro (⟨starts, continues⟩ | filled)
      · exact .inl ⟨_, _, rfl, starts, continues⟩
      · exact .inr ⟨_, ⟨filled, rfl⟩, fun other same => (quote_injective same.2).symm⟩
    · rintro (⟨first, rest, rfl, starts, continues⟩ | ⟨name, ⟨filled, rfl⟩, -⟩)
      · exact .bare starts continues
      · exact .quoted filled
  · intro name
    rw [checkColumnName_eq_ok_iff, isColumnName_quote_iff]

end Identifier

end JsonSql
