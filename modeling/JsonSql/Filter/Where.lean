import JsonSql.Filter
import JsonSql.Literal
import JsonSql.Operator

/-!
# Filters as WHERE conditions

A filter compiles to a list of fragments.  Conditions of one object stand side
by side while the object is shallow and are folded into one parenthesized
fragment when it lies deeper; a group below the outermost level is wrapped as
soon as it joins two fragments.  Empty fragments are dropped everywhere.

A caller who starts at a depth of its own gives it as a machine word, whose last
value is followed by zero.  A whole filter is compiled from its root, and no tree
reaches the last word from there: its depths are counted without a bound.
-/

namespace JsonSql.Filter

def parenthesized (text : String) : String := "(" ++ text ++ ")"

def operandText : Operand → String
  | .scalar value => value.literal
  | .list values => parenthesized (", ".intercalate (values.map Json.literal))

/-- A test for membership in an empty list has no row that meets it. -/
def conditionText (field operator : String) (operand : Operand) : String :=
  match operand with
  | .list [] =>
      if Operator.isMembership operator then Operator.unattainable
      else Operator.compare field operator (operandText operand)
  | _ => Operator.compare field operator (operandText operand)

def nonempty (fragments : List String) : List String :=
  fragments.filter fun fragment => fragment != ""

def joinWith (combinator : Combinator) (fragments : List String) : String :=
  (" " ++ combinator.keyword ++ " ").intercalate fragments

def joinGroup (combinator : Combinator) (level : Nat) (fragments : List String) :
    String :=
  if 1 < level ∧ 1 < (nonempty fragments).length then
    parenthesized (joinWith combinator (nonempty fragments))
  else
    joinWith combinator (nonempty fragments)

def foldFields (level : Nat) (fragments : List String) : List String :=
  if 2 < level ∧ 1 < (nonempty fragments).length then
    [parenthesized (joinWith .and (nonempty fragments))]
  else
    nonempty fragments

/-- What counts depths, with one step for each level down. -/
class DepthCounter (Depth : Type) where
  level : Depth → Nat
  deeper : Depth → Depth

instance : DepthCounter UInt64 where
  level := UInt64.toNat
  deeper depth := depth + 1

instance : DepthCounter Nat where
  level depth := depth
  deeper depth := depth + 1

namespace DepthCounter

@[simp] theorem level_word (depth : UInt64) : level depth = depth.toNat := rfl

@[simp] theorem deeper_word (depth : UInt64) : deeper depth = depth + 1 := rfl

@[simp] theorem level_nat (depth : Nat) : level depth = depth := rfl

@[simp] theorem deeper_nat (depth : Nat) : deeper depth = depth + 1 := rfl

end DepthCounter

open DepthCounter

variable {Depth : Type} [DepthCounter Depth]

mutual

/-- The depth counts from the root, once for the objects and once for the groups
that lie at this place: a group inside an object is no deeper than the object. -/
def fragments (fieldsDepth groupDepth : Depth) : Filter → List String
  | .condition field operator operand => [conditionText field operator operand]
  | .fields entries =>
      foldFields (level fieldsDepth)
        (allFragments (deeper fieldsDepth) fieldsDepth entries)
  | .group combinator children =>
      [joinGroup combinator (level groupDepth)
        (allFragments (deeper groupDepth) (deeper groupDepth) children)]
  | .raw text => [text]

def allFragments (fieldsDepth groupDepth : Depth) : List Filter → List String
  | [] => []
  | filter :: filters =>
      fragments fieldsDepth groupDepth filter ++
        allFragments fieldsDepth groupDepth filters

end

theorem allFragments_eq_flatMap (fieldsDepth groupDepth : Depth) (filters : List Filter) :
    allFragments fieldsDepth groupDepth filters =
      filters.flatMap (fragments fieldsDepth groupDepth) := by
  induction filters with
  | nil => rfl
  | cons filter filters ih => rw [allFragments, List.flatMap_cons, ih]

def groupText (depth : Depth) (combinator : Combinator) (children : List Filter) :
    String :=
  joinGroup combinator (level depth)
    (allFragments (deeper depth) (deeper depth) children)

def fieldsTexts (depth : Depth) (entries : List Filter) : List String :=
  foldFields (level depth) (allFragments (deeper depth) depth entries)

def whereText : Filter → String
  | .condition field operator operand => conditionText field operator operand
  | .fields entries => joinWith .and (fieldsTexts (2 : Nat) entries)
  | .group combinator children => groupText (1 : Nat) combinator children
  | .raw text => text

end JsonSql.Filter
