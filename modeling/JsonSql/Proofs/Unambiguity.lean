import JsonSql.Proofs.Meaning
import JsonSql.Text.Blank

/-!
# Compiled filters are unambiguous

The text of a row of formulas is read in one way only, if its atoms have no
parentheses and no connective for a word: behind an operand comes a separator,
a closing parenthesis or the end, and an atom can be continued into none of
them.  So two filters with one text have the same conditions in the same order
and the same value under every truth assignment.
-/

namespace JsonSql

def isSpace (char : Char) : Bool := char == ' '

/-- No parenthesis, and between the spaces no word that joins conditions. -/
structure IsPlain (chars : List Char) : Prop where
  noOpening : '(' ∉ chars
  noClosing : ')' ∉ chars
  noKeyword : ∀ combinator : Combinator,
    combinator.keyword.toList ∉ Text.cut isSpace chars

namespace Combinator

theorem toList_separator (combinator : Combinator) :
    combinator.separator.toList = ' ' :: (combinator.keyword.toList ++ [' ']) := by
  cases combinator <;> rfl

theorem keyword_letters (combinator : Combinator) :
    ∀ char ∈ combinator.keyword.toList, char ≠ ')' ∧ char ≠ ' ' := by
  cases combinator <;> simp [keyword]

theorem separator_append_inj {first second : Combinator} {rest behind : List Char}
    (same : first.separator.toList ++ rest = second.separator.toList ++ behind) :
    first = second ∧ rest = behind := by
  cases first <;> cases second <;> simp_all [separator]

theorem keyword_mem_cut (combinator : Combinator) (before : List Char)
    {after : List Char} (wholeWord : after = [] ∨ ∃ rest, after = ' ' :: rest) :
    combinator.keyword.toList ∈
      Text.cut isSpace (before ++ ' ' :: (combinator.keyword.toList ++ after)) := by
  have space : isSpace ' ' = true := rfl
  have oneWord : Text.cut isSpace combinator.keyword.toList =
      [combinator.keyword.toList] := by
    cases combinator <;> decide
  rw [Text.cut_append_cons space, List.mem_append]
  rcases wholeWord with rfl | ⟨rest, rfl⟩
  · simp [oneWord]
  · simp [Text.cut_append_cons space, oneWord]

end Combinator

/-! ## What stands behind an operand -/

/-- What can stand behind the last operand of a level. -/
inductive Closes : List Char → Prop
  | atEnd : Closes []
  | parenthesis (rest : List Char) : Closes (')' :: rest)

inductive Follows : List Char → Prop
  | closing {rest : List Char} : Closes rest → Follows rest
  | separator (combinator : Combinator) (rest : List Char) :
      Follows (combinator.separator.toList ++ rest)

theorem Follows.head {char : Char} {rest : List Char}
    (follows : Follows (char :: rest)) : char = ')' ∨ char = ' ' := by
  generalize same : char :: rest = text at follows
  cases follows with
  | closing closes =>
      cases closes with
      | atEnd => cases same
      | parenthesis => exact .inl (List.cons.inj same).1
  | separator combinator behind =>
      rw [Combinator.toList_separator] at same
      exact .inr (List.cons.inj same).1

theorem keyword_of_append_eq {combinator : Combinator} {more rest behind : List Char}
    (follows : Follows rest)
    (same : more ++ rest = combinator.keyword.toList ++ ' ' :: behind) :
    ∃ after, more = combinator.keyword.toList ++ after ∧
      (after = [] ∨ ∃ rest, after = ' ' :: rest) := by
  rcases List.append_eq_append_iff.mp same with
    ⟨missing, keyword, there⟩ | ⟨after, rfl, there⟩
  · cases missing with
    | nil => exact ⟨[], by simpa using keyword.symm, .inl rfl⟩
    | cons letter missing =>
        -- the rest would begin inside the keyword
        have inKeyword : letter ∈ combinator.keyword.toList := by simp [keyword]
        rw [there] at follows
        obtain ⟨noClosing, noSpace⟩ := combinator.keyword_letters letter inKeyword
        rcases follows.head with closing | space
        · exact absurd closing noClosing
        · exact absurd space noSpace
  · refine ⟨after, rfl, ?_⟩
    cases after with
    | nil => exact .inl rfl
    | cons space after =>
        obtain ⟨rfl, -⟩ := List.cons.inj there
        exact .inr ⟨after, rfl⟩

theorem eq_nil_of_follows {atom more rest : List Char} (plain : IsPlain (atom ++ more))
    (longer : Follows (more ++ rest)) (follows : Follows rest) : more = [] := by
  cases more with
  | nil => rfl
  | cons char more =>
      exfalso
      generalize same : char :: more ++ rest = text at longer
      cases longer with
      | closing closes =>
          cases closes with
          | atEnd => cases same
          | parenthesis =>
              obtain ⟨rfl, -⟩ := List.cons.inj same
              exact plain.noClosing (by simp)
      | separator combinator behind =>
          rw [Combinator.toList_separator, List.cons_append, List.cons_append,
            List.append_assoc] at same
          obtain ⟨rfl, tails⟩ := List.cons.inj same
          obtain ⟨after, rfl, wholeWord⟩ := keyword_of_append_eq follows tails
          exact plain.noKeyword combinator (combinator.keyword_mem_cut atom wholeWord)

theorem plain_append_inj {first second rest behind : List Char}
    (plainFirst : IsPlain first) (plainSecond : IsPlain second)
    (followsFirst : Follows rest) (followsSecond : Follows behind)
    (same : first ++ rest = second ++ behind) : first = second ∧ rest = behind := by
  rcases List.append_eq_append_iff.mp same with ⟨more, rfl, rfl⟩ | ⟨more, rfl, rfl⟩
  · obtain rfl := eq_nil_of_follows plainSecond followsFirst followsSecond
    simp
  · obtain rfl := eq_nil_of_follows plainFirst followsSecond followsFirst
    simp

theorem plain_append_ne_opening {atom rest : List Char} (plain : IsPlain atom)
    (follows : Follows rest) (chars : List Char) : atom ++ rest ≠ '(' :: chars := by
  intro same
  cases atom with
  | nil =>
      obtain rfl : rest = '(' :: chars := same
      rcases follows.head with head | head <;> cases head
  | cons char atom =>
      obtain ⟨rfl, -⟩ := List.cons.inj same
      exact plain.noOpening (by simp)

namespace Formula

def tailText (combinator : Combinator) : List Formula → List Char
  | [] => []
  | formula :: formulas =>
      combinator.separator.toList ++
        (formula.text.toList ++ tailText combinator formulas)

theorem toList_intercalate_texts (combinator : Combinator) (first : Formula)
    (rest : List Formula) :
    (combinator.separator.intercalate (texts (first :: rest))).toList =
      first.text.toList ++ tailText combinator rest := by
  induction rest generalizing first with
  | nil => simp [texts, tailText]
  | cons second rest ih =>
      rw [texts, texts, String.intercalate_cons_cons, String.toList_append, ← texts, ih,
        String.toList_append, tailText, List.append_assoc]

theorem toList_text_joined (combinator : Combinator) (first second : Formula)
    (rest : List Formula) :
    (joined combinator first second rest).text.toList =
      '(' :: (first.text.toList ++ (tailText combinator (second :: rest) ++ [')'])) := by
  have inner := toList_intercalate_texts combinator first (second :: rest)
  rw [texts, texts] at inner
  rw [text, String.toList_append, String.toList_append, inner]
  simp

theorem follows_tailText (combinator : Combinator) (formulas : List Formula)
    {rest : List Char} (closes : Closes rest) :
    Follows (tailText combinator formulas ++ rest) := by
  cases formulas with
  | nil => exact .closing closes
  | cons formula formulas =>
      rw [tailText, List.append_assoc]
      exact .separator combinator _

-- The first operands agree because of what follows them, then the separators, then
-- the operands that are left.
mutual

theorem text_append_inj : (first second : Formula) →
    (∀ text ∈ first.atoms, IsPlain text.toList) →
    (∀ text ∈ second.atoms, IsPlain text.toList) →
    ∀ {rest behind : List Char}, Follows rest → Follows behind →
      first.text.toList ++ rest = second.text.toList ++ behind →
        first = second ∧ rest = behind
  | atom first, atom second, plain, plain', _, _, follows, follows', same => by
      obtain ⟨texts, rests⟩ := plain_append_inj (plain first (by simp [atoms]))
        (plain' second (by simp [atoms])) follows follows' same
      exact ⟨congrArg atom (String.toList_inj.mp texts), rests⟩
  | atom first, joined _ _ _ _, plain, _, _, _, follows, _, same => by
      rw [toList_text_joined] at same
      exact absurd same (plain_append_ne_opening (plain first (by simp [atoms])) follows _)
  | joined _ _ _ _, atom second, _, plain, _, _, _, follows, same => by
      rw [toList_text_joined] at same
      exact absurd same.symm
        (plain_append_ne_opening (plain second (by simp [atoms])) follows _)
  | joined combinator left right others, joined combinator' left' right' others',
      plain, plain', rest, behind, _, _, same => by
      have closes := Closes.parenthesis rest
      have closes' := Closes.parenthesis behind
      simp only [atoms, List.forall_mem_append] at plain plain'
      simp only [toList_text_joined, List.cons_append, List.append_assoc,
        List.nil_append, List.cons.injEq, true_and] at same
      obtain ⟨rfl, behindLeft⟩ := text_append_inj left left' plain.1 plain'.1
        (follows_tailText _ _ closes) (follows_tailText _ _ closes') same
      simp only [tailText, List.append_assoc] at behindLeft
      obtain ⟨rfl, fromRight⟩ := Combinator.separator_append_inj behindLeft
      obtain ⟨rfl, behindRight⟩ := text_append_inj right right' plain.2.1 plain'.2.1
        (follows_tailText _ _ closes) (follows_tailText _ _ closes') fromRight
      obtain ⟨rfl, closings⟩ := tailText_append_inj combinator others others'
        plain.2.2 plain'.2.2 closes closes' behindRight
      exact ⟨rfl, (List.cons.inj closings).2⟩

theorem tailText_append_inj (combinator : Combinator) :
    (first second : List Formula) →
    (∀ text ∈ allAtoms first, IsPlain text.toList) →
    (∀ text ∈ allAtoms second, IsPlain text.toList) →
    ∀ {rest behind : List Char}, Closes rest → Closes behind →
      tailText combinator first ++ rest = tailText combinator second ++ behind →
        first = second ∧ rest = behind
  | [], [], _, _, _, _, _, _, same => ⟨rfl, same⟩
  | [], _ :: _, _, _, _, _, closes, _, same => by
      rw [tailText, tailText, Combinator.toList_separator] at same
      cases closes <;> cases same
  | _ :: _, [], _, _, _, _, _, closes, same => by
      rw [tailText, tailText, Combinator.toList_separator] at same
      cases closes <;> cases same
  | formula :: formulas, formula' :: formulas', plain, plain', _, _, closes, closes',
      same => by
      simp only [allAtoms, List.forall_mem_append] at plain plain'
      simp only [tailText, List.append_assoc] at same
      obtain ⟨-, fromFirst⟩ := Combinator.separator_append_inj same
      obtain ⟨rfl, behindFirst⟩ := text_append_inj formula formula' plain.1 plain'.1
        (follows_tailText _ _ closes) (follows_tailText _ _ closes') fromFirst
      obtain ⟨rfl, rests⟩ := tailText_append_inj combinator formulas formulas'
        plain.2 plain'.2 closes closes' behindFirst
      exact ⟨rfl, rests⟩

end

theorem rowText_inj {first second : List Formula}
    (filled : ∀ text ∈ allAtoms first ++ allAtoms second, text ≠ "")
    (plain : ∀ text ∈ allAtoms first ++ allAtoms second, IsPlain text.toList)
    (same : rowText first = rowText second) : first = second := by
  simp only [List.forall_mem_append] at filled plain
  have bothEmpty : first = [] ↔ second = [] := by
    rw [← rowText_eq_empty_iff first filled.1, ← rowText_eq_empty_iff second filled.2,
      same]
  rcases first with _ | ⟨formula, formulas⟩ <;> rcases second with _ | ⟨formula', formulas'⟩
  · rfl
  · simp at bothEmpty
  · simp at bothEmpty
  · simp only [allAtoms, List.forall_mem_append] at plain
    have chars : formula.text.toList ++ (tailText .and formulas ++ []) =
        formula'.text.toList ++ (tailText .and formulas' ++ []) := by
      rw [List.append_nil, List.append_nil, ← toList_intercalate_texts,
        ← toList_intercalate_texts]
      exact congrArg String.toList same
    obtain ⟨rfl, tails⟩ := text_append_inj formula formula' plain.1.1 plain.2.1
      (follows_tailText _ _ .atEnd) (follows_tailText _ _ .atEnd) chars
    obtain ⟨rfl, -⟩ := tailText_append_inj .and formulas formulas' plain.1.2 plain.2.2
      .atEnd .atEnd tails
    rfl

end Formula

/-! ## Filters with one text -/

namespace Filter

theorem allAtoms_row {filter : Filter} (plain : filter.rawFree = true)
    (conjunctive : filter.isDisjunction = false) :
    Formula.allAtoms filter.row = filter.leaves.map Leaf.text :=
  (conveys_row filter plain conjunctive).atoms

theorem row_eq_of_whereText_eq {first second : Filter}
    (rawFree : first.rawFree = true ∧ second.rawFree = true)
    (conjunctive : first.isDisjunction = false ∧ second.isDisjunction = false)
    (plain : ∀ leaf ∈ first.leaves ++ second.leaves, IsPlain leaf.text.toList)
    (same : first.whereText = second.whereText) : first.row = second.row := by
  rw [whereText_eq_rowText first conjunctive.1,
    whereText_eq_rowText second conjunctive.2] at same
  have atoms : Formula.allAtoms first.row ++ Formula.allAtoms second.row =
      (first.leaves ++ second.leaves).map Leaf.text := by
    rw [allAtoms_row rawFree.1 conjunctive.1, allAtoms_row rawFree.2 conjunctive.2,
      List.map_append]
  refine Formula.rowText_inj ?_ ?_ same
  · rw [atoms]
    exact List.forall_mem_map.mpr fun leaf _ => leaf.text_ne_empty
  · rw [atoms]
    exact List.forall_mem_map.mpr plain

/-- The text determines the meaning: filters without raw text, whose conditions have
no parentheses and no connective for a word, have the same conditions in the same
order and the same value under every truth assignment if they have the same text. -/
theorem meaning_eq_of_whereText_eq (first second : List Filter)
    (rawFree : allRawFree first = true ∧ allRawFree second = true)
    (plain : ∀ leaf ∈ allLeaves first ++ allLeaves second, IsPlain leaf.text.toList)
    (same : (Filter.group .and first).whereText = (Filter.group .and second).whereText) :
    (Filter.group .and first).leaves.map Leaf.text =
        (Filter.group .and second).leaves.map Leaf.text ∧
      ∀ truth, (Filter.group .and first).value? truth 0 =
        (Filter.group .and second).value? truth 0 := by
  have conveysFirst := conveys_row (.group .and first) rawFree.1 rfl
  have conveysSecond := conveys_row (.group .and second) rawFree.2 rfl
  have rows : (Filter.group .and first).row = (Filter.group .and second).row :=
    row_eq_of_whereText_eq rawFree ⟨rfl, rfl⟩ plain same
  constructor
  · rw [← conveysFirst.atoms, ← conveysSecond.atoms, rows]
  · intro truth
    rw [← conveysFirst.value, ← conveysSecond.value, rows]

def deepChildren : List Filter :=
  [.fields
    [.fields [.condition "a" "==" (.scalar .null)],
     .group .or
      [.fields
        [.condition "b" ">" (.scalar .null), .condition "c" "in" (.list [])],
       .group .and [],
       .condition "d" "!=" (.scalar (.boolean true))]]]

def groupedChildren : List Filter :=
  [.condition "a" "==" (.scalar .null),
   .group .and
    [.group .or
      [.group .and
        [.condition "b" "gt" (.scalar .null), .condition "d" "nin" (.list [])],
       .condition "d" "<>" (.scalar (.boolean true))]]]

theorem meaning_deepChildren_groupedChildren :
    (Filter.group .and deepChildren).whereText =
        (Filter.group .and groupedChildren).whereText ∧
      ∀ truth, (Filter.group .and deepChildren).value? truth 0 =
        (Filter.group .and groupedChildren).value? truth 0 := by
  have same : (Filter.group .and deepChildren).whereText =
      (Filter.group .and groupedChildren).whereText := by decide
  have plain : ∀ leaf ∈ allLeaves deepChildren ++ allLeaves groupedChildren,
      IsPlain leaf.text.toList := by
    simp only [deepChildren, groupedChildren, allLeaves, leaves, List.cons_append,
      List.nil_append, List.append_nil, List.forall_mem_cons, List.not_mem_nil]
    refine ⟨?_, ?_, ?_, ?_, ?_, ?_, ?_, ?_, fun _ member => member.elim⟩ <;>
      exact ⟨by decide, by decide, fun combinator => by cases combinator <;> decide⟩
  exact ⟨same, (meaning_eq_of_whereText_eq deepChildren groupedChildren ⟨rfl, rfl⟩ plain
    same).2⟩

end Filter

end JsonSql
