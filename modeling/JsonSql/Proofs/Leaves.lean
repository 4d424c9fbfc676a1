import JsonSql.Filter.Where
import JsonSql.Proofs.Formula

/-!
# What a filter says

The leaves of a filter are its comparisons in their order.  Under a truth
assignment to the numbers of the leaves a filter has a value: the entries of an
object must all hold, a group joins its children, and parts without a leaf do
not count.
-/

namespace JsonSql

structure Leaf where
  field : String
  operator : String
  operand : Operand
  deriving Repr, Inhabited

def Leaf.text (leaf : Leaf) : String :=
  Filter.conditionText leaf.field leaf.operator leaf.operand

namespace Filter

mutual

def leaves : Filter → List Leaf
  | .condition field operator operand => [⟨field, operator, operand⟩]
  | .fields entries => allLeaves entries
  | .group _ children => allLeaves children
  | .raw _ => []

def allLeaves : List Filter → List Leaf
  | [] => []
  | filter :: filters => filter.leaves ++ allLeaves filters

end

mutual

def rawFree : Filter → Bool
  | .condition .. => true
  | .fields entries => allRawFree entries
  | .group _ children => allRawFree children
  | .raw _ => false

def allRawFree : List Filter → Bool
  | [] => true
  | filter :: filters => filter.rawFree && allRawFree filters

end

mutual

/-- The value of a filter whose leaves have the numbers from `start` on, if it
has any. -/
def value? (truth : Nat → Bool) (start : Nat) : Filter → Option Bool
  | .condition .. => some (truth start)
  | .fields entries => Combinator.and.outcome? (values truth start entries)
  | .group combinator children => combinator.outcome? (values truth start children)
  | .raw _ => none

def values (truth : Nat → Bool) (start : Nat) : List Filter → List Bool
  | [] => []
  | filter :: filters =>
      (filter.value? truth start).toList ++
        values truth (start + filter.leaves.length) filters

end

def isDisjunction : Filter → Bool
  | .group .or _ => true
  | _ => false

theorem allLeaves_eq_flatMap (filters : List Filter) :
    allLeaves filters = filters.flatMap leaves := by
  induction filters with
  | nil => rfl
  | cons filter filters ih => rw [allLeaves, List.flatMap_cons, ih]

@[simp] theorem allLeaves_append (first second : List Filter) :
    allLeaves (first ++ second) = allLeaves first ++ allLeaves second := by
  simp [allLeaves_eq_flatMap]

@[simp] theorem allRawFree_cons (filter : Filter) (filters : List Filter) :
    allRawFree (filter :: filters) = true ↔
      filter.rawFree = true ∧ allRawFree filters = true := by
  simp [allRawFree]

end Filter

theorem Operator.compare_ne_empty (field token value : String) :
    Operator.compare field token value ≠ "" := by
  unfold Operator.compare
  split <;> simp

theorem Leaf.text_ne_empty (leaf : Leaf) : leaf.text ≠ "" := by
  unfold Leaf.text Filter.conditionText
  split
  · split
    · decide
    · exact Operator.compare_ne_empty _ _ _
  · exact Operator.compare_ne_empty _ _ _

end JsonSql
