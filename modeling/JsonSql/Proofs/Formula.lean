import JsonSql.Filter

/-!
# Parenthesized formulas

Conditions joined by one connective at each level of parentheses, with at least
two operands inside every pair.  A row of formulas stands for their conjunction
and has no parentheses of its own.  The atoms are numbered from left to right,
and a truth assignment gives a value to each number.
-/

namespace JsonSql

namespace Combinator

def separator : Combinator → String
  | and => " AND "
  | or => " OR "

def combine : Combinator → List Bool → Bool
  | and, values => values.all id
  | or, values => values.any id

/-- The value of what is left when operands without a value are skipped. -/
def outcome? (combinator : Combinator) : List Bool → Option Bool
  | [] => none
  | value :: values => some (combinator.combine (value :: values))

@[simp] theorem outcome?_nil (combinator : Combinator) :
    combinator.outcome? [] = none := rfl

@[simp] theorem outcome?_singleton (combinator : Combinator) (value : Bool) :
    combinator.outcome? [value] = some value := by
  cases combinator <;> simp [outcome?, combine]

@[simp] theorem outcome?_toList (combinator : Combinator) (value? : Option Bool) :
    combinator.outcome? value?.toList = value? := by
  cases value? <;> simp

theorem outcome?_and_append (first second : List Bool) :
    and.outcome? (first ++ second) =
      and.outcome? ((and.outcome? first).toList ++ (and.outcome? second).toList) := by
  rcases first with _ | ⟨value, values⟩
  · simp
  rcases second with _ | ⟨other, others⟩
  · simp
  · simp [outcome?, combine, Bool.and_assoc]

end Combinator

inductive Formula where
  | atom (text : String)
  | joined (combinator : Combinator) (first second : Formula) (rest : List Formula)

namespace Formula

mutual

def text : Formula → String
  | atom text => text
  | joined combinator first second rest =>
      "(" ++ combinator.separator.intercalate
        (first.text :: second.text :: texts rest) ++ ")"

def texts : List Formula → List String
  | [] => []
  | formula :: formulas => formula.text :: texts formulas

end

mutual

def atoms : Formula → List String
  | atom text => [text]
  | joined _ first second rest => first.atoms ++ (second.atoms ++ allAtoms rest)

def allAtoms : List Formula → List String
  | [] => []
  | formula :: formulas => formula.atoms ++ allAtoms formulas

end

mutual

/-- The value of a formula whose atoms have the numbers from `start` on. -/
def value (truth : Nat → Bool) (start : Nat) : Formula → Bool
  | atom _ => truth start
  | joined combinator first second rest =>
      let afterFirst := start + first.atoms.length
      combinator.combine
        (first.value truth start :: second.value truth afterFirst ::
          values truth (afterFirst + second.atoms.length) rest)

def values (truth : Nat → Bool) (start : Nat) : List Formula → List Bool
  | [] => []
  | formula :: formulas =>
      formula.value truth start ::
        values truth (start + formula.atoms.length) formulas

end

def rowText (row : List Formula) : String := " AND ".intercalate (texts row)

def rowValue? (truth : Nat → Bool) (row : List Formula) : Option Bool :=
  Combinator.and.outcome? (values truth 0 row)

theorem texts_eq_map (row : List Formula) : texts row = row.map text := by
  induction row with
  | nil => rfl
  | cons formula row ih => rw [texts, List.map_cons, ih]

theorem allAtoms_eq_flatMap (row : List Formula) :
    allAtoms row = row.flatMap atoms := by
  induction row with
  | nil => rfl
  | cons formula row ih => rw [allAtoms, List.flatMap_cons, ih]

@[simp] theorem texts_append (first second : List Formula) :
    texts (first ++ second) = texts first ++ texts second := by
  simp [texts_eq_map]

@[simp] theorem allAtoms_append (first second : List Formula) :
    allAtoms (first ++ second) = allAtoms first ++ allAtoms second := by
  simp [allAtoms_eq_flatMap]

theorem values_append (truth : Nat → Bool) (start : Nat)
    (first second : List Formula) :
    values truth start (first ++ second) =
      values truth start first ++
        values truth (start + (allAtoms first).length) second := by
  induction first generalizing start with
  | nil => rfl
  | cons formula first ih =>
      rw [List.cons_append, values, values, ih, List.cons_append, allAtoms,
        List.length_append, Nat.add_assoc]

theorem atoms_ne_nil : (formula : Formula) → formula.atoms ≠ []
  | atom _ => by simp [atoms]
  | joined _ first _ _ => by simp [atoms, atoms_ne_nil first]

@[simp] theorem allAtoms_eq_nil_iff (row : List Formula) :
    allAtoms row = [] ↔ row = [] := by
  cases row with
  | nil => simp [allAtoms]
  | cons formula row => simp [allAtoms, atoms_ne_nil]

theorem text_ne_empty (formula : Formula)
    (filled : ∀ text ∈ formula.atoms, text ≠ "") : formula.text ≠ "" := by
  cases formula with
  | atom text => exact filled text (by simp [atoms])
  | joined combinator first second rest => simp [text]

theorem rowText_eq_empty_iff (row : List Formula)
    (filled : ∀ text ∈ allAtoms row, text ≠ "") : rowText row = "" ↔ row = [] := by
  cases row with
  | nil => simp [rowText, texts]
  | cons formula row =>
      have first : formula.text ≠ "" :=
        text_ne_empty formula fun text member =>
          filled text (by simp [allAtoms, member])
      cases row with
      | nil => simpa [rowText, texts] using first
      | cons next row => simp [rowText, texts]

/-- Parentheses are put around a row of at least two formulas only. -/
def bundle? (combinator : Combinator) : List Formula → Option Formula
  | [] => none
  | [formula] => some formula
  | first :: second :: rest => some (joined combinator first second rest)

theorem toList_bundle?_of_single (combinator : Combinator) {row : List Formula}
    (single : row.length ≤ 1) : (bundle? combinator row).toList = row := by
  rcases row with _ | ⟨first, _ | ⟨second, rest⟩⟩
  · rfl
  · rfl
  · simp at single

theorem allAtoms_bundle? (combinator : Combinator) (row : List Formula) :
    allAtoms (bundle? combinator row).toList = allAtoms row := by
  rcases row with _ | ⟨first, _ | ⟨second, rest⟩⟩
  · rfl
  · rfl
  · simp [bundle?, allAtoms, atoms]

theorem map_value_bundle? (combinator : Combinator) (truth : Nat → Bool)
    (start : Nat) (row : List Formula) :
    (bundle? combinator row).map (value truth start) =
      combinator.outcome? (values truth start row) := by
  rcases row with _ | ⟨first, _ | ⟨second, rest⟩⟩
  · rfl
  · simp [bundle?, values]
  · simp [bundle?, values, value, Combinator.outcome?]

end Formula

end JsonSql
