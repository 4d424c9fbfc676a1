import JsonSql.Proofs.Meaning

/-!
# Outermost disjunctions

The outermost group puts no parentheses around the conditions of an object that is
its member, so a disjunction there joins them by `OR`, one by one.  This keeps the
meaning exactly if no such object has two conditions: connectives do not change a
value that all their operands have, so an assignment that makes one condition of
the object true and everything else false tells the two readings apart.
-/

namespace JsonSql

namespace Combinator

theorem outcome?_or_eq_some_true_iff (values : List Bool) :
    or.outcome? values = some true ↔ true ∈ values := by
  cases values with
  | nil => simp
  | cons value values =>
      rw [outcome?, Option.some.injEq]
      simp [combine]

theorem combine_of_constant (combinator : Combinator) {answer first : Bool}
    {rest : List Bool} (constant : ∀ value ∈ first :: rest, value = answer) :
    combinator.combine (first :: rest) = answer := by
  obtain ⟨rfl, others⟩ := List.forall_mem_cons.mp constant
  have repeated : rest = List.replicate rest.length first := List.eq_replicate_of_mem others
  rw [repeated]
  cases combinator <;> cases first <;> simp [combine]

end Combinator

namespace Formula

def ConstantOn (truth : Nat → Bool) (answer : Bool) (start count : Nat) : Prop :=
  ∀ number, start ≤ number → number < start + count → truth number = answer

theorem ConstantOn.split {truth : Nat → Bool} {answer : Bool} {start before after : Nat}
    (constant : ConstantOn truth answer start (before + after)) :
    ConstantOn truth answer start before ∧ ConstantOn truth answer (start + before) after := by
  constructor
  · intro number atLeast below
    exact constant number atLeast (by omega)
  · intro number atLeast below
    exact constant number (by omega) (by omega)

mutual

theorem value_of_constant {truth : Nat → Bool} {answer : Bool} : (formula : Formula) →
    {start : Nat} → ConstantOn truth answer start formula.atoms.length →
      formula.value truth start = answer
  | atom _, start, constant => constant start (Nat.le_refl _) (by simp [atoms])
  | joined combinator first second rest, start, constant => by
      rw [atoms, List.length_append, List.length_append] at constant
      obtain ⟨onFirst, onOthers⟩ := constant.split
      obtain ⟨onSecond, onRest⟩ := onOthers.split
      rw [value]
      refine combinator.combine_of_constant ?_
      simp only [List.forall_mem_cons]
      exact ⟨value_of_constant first onFirst, value_of_constant second onSecond,
        values_of_constant rest onRest⟩

theorem values_of_constant {truth : Nat → Bool} {answer : Bool} :
    (row : List Formula) → {start : Nat} →
      ConstantOn truth answer start (allAtoms row).length →
        ∀ value ∈ values truth start row, value = answer
  | [], _, _ => by simp [values]
  | formula :: row, start, constant => by
      rw [allAtoms, List.length_append] at constant
      obtain ⟨onFirst, onRest⟩ := constant.split
      rw [values, List.forall_mem_cons]
      exact ⟨value_of_constant formula onFirst, values_of_constant row onRest⟩

end

def disjunctionValue? (truth : Nat → Bool) (row : List Formula) : Option Bool :=
  Combinator.or.outcome? (values truth 0 row)

/-- The assignment that holds for the atoms with the numbers from `start` on, `count`
of them, and for no others. -/
def holdsOn (start count : Nat) (number : Nat) : Bool :=
  start ≤ number && number < start + count

theorem holdsOn_inside (start count : Nat) :
    ConstantOn (holdsOn start count) true start count := by
  intro number atLeast below
  simp [holdsOn, atLeast, below]

theorem holdsOn_before (start count : Nat) :
    ConstantOn (holdsOn start count) false 0 start := by
  intro number _ below
  simp [holdsOn]
  omega

theorem holdsOn_behind {start count later : Nat} (past : start + count ≤ later)
    (more : Nat) : ConstantOn (holdsOn start count) false later more := by
  intro number atLeast _
  simp [holdsOn]
  omega

theorem disjunctionValue?_of_first (before : List Formula) (first : Formula)
    (behind : List Formula) :
    disjunctionValue? (holdsOn (allAtoms before).length first.atoms.length)
      (before ++ first :: behind) = some true := by
  have firstHolds := value_of_constant first
    (holdsOn_inside (allAtoms before).length first.atoms.length)
  rw [disjunctionValue?, Combinator.outcome?_or_eq_some_true_iff, values_append, Nat.zero_add,
    values, firstHolds]
  simp

theorem disjunctionValue?_of_joined (ahead : List Formula) (first second : Formula)
    (rest after : List Formula) :
    disjunctionValue? (holdsOn (allAtoms ahead).length first.atoms.length)
      (ahead ++ joined .and first second rest :: after) ≠ some true := by
  have aheadFail := values_of_constant ahead
    (holdsOn_before (allAtoms ahead).length first.atoms.length)
  have secondFails := value_of_constant second
    (holdsOn_behind (Nat.le_refl ((allAtoms ahead).length + first.atoms.length)) _)
  have past : (allAtoms ahead).length + first.atoms.length ≤
      (allAtoms ahead).length + (joined .and first second rest).atoms.length := by
    simp [atoms]
  have afterFail := values_of_constant after (holdsOn_behind past _)
  have joinedFails : (joined .and first second rest).value
      (holdsOn (allAtoms ahead).length first.atoms.length) (allAtoms ahead).length =
        false := by
    simp [value, secondFails, Combinator.combine]
  rw [disjunctionValue?, Ne, Combinator.outcome?_or_eq_some_true_iff, values_append,
    Nat.zero_add, values, joinedFails, List.mem_append, List.mem_cons]
  rintro (holds | holds | holds)
  · cases aheadFail true holds
  · cases holds
  · cases afterFail true holds

end Formula

namespace Filter

/-! ## Members of an outermost disjunction -/

theorem allRawFree_append (first second : List Filter) :
    allRawFree (first ++ second) = (allRawFree first && allRawFree second) := by
  induction first with
  | nil => rfl
  | cons filter first ih => rw [List.cons_append, allRawFree, allRawFree, ih, Bool.and_assoc]

/-- The fragments that a member of the outermost group adds; the conditions of an
object are fragments of their own. -/
def memberTexts : Filter → List String
  | .fields entries => fieldsTexts 2 entries
  | .group combinator children => nonempty [groupText 2 combinator children]
  | .condition field operator operand => [conditionText field operator operand]
  | .raw text => nonempty [text]

theorem memberTexts_eq_texts (filter : Filter) :
    filter.memberTexts = Formula.texts filter.rowOfMember := by
  cases filter with
  | fields entries => exact fieldsTexts_two entries
  | group combinator children => exact nonempty_fragments_member (.group combinator children)
  | condition field operator operand =>
      simp [memberTexts, rowOfMember, formula?, Formula.texts, Formula.text]
  | raw text => exact nonempty_fragments_member (.raw text)

def operands (children : List Filter) : List Formula := children.flatMap rowOfMember

theorem operands_cons (child : Filter) (children : List Filter) :
    operands (child :: children) = child.rowOfMember ++ operands children :=
  List.flatMap_cons ..

theorem texts_operands (children : List Filter) :
    Formula.texts (operands children) = children.flatMap memberTexts := by
  induction children with
  | nil => rfl
  | cons child children ih =>
      rw [operands_cons, Formula.texts_append, ih, List.flatMap_cons, memberTexts_eq_texts]

def parts : Filter → List Filter
  | .fields entries => entries
  | filter => [filter]

theorem rowOfMember_eq_formulas (filter : Filter) :
    filter.rowOfMember = formulas filter.parts := by
  cases filter with
  | fields entries => rfl
  | _ => simp [rowOfMember, parts, formulas]

theorem operands_eq_formulas (children : List Filter) :
    operands children = formulas (children.flatMap parts) := by
  induction children with
  | nil => rfl
  | cons child children ih =>
      rw [operands_cons, ih, List.flatMap_cons, formulas_append, rowOfMember_eq_formulas]

theorem allRawFree_parts {children : List Filter} (plain : allRawFree children = true) :
    allRawFree (children.flatMap parts) = true := by
  induction children with
  | nil => rfl
  | cons child children ih =>
      obtain ⟨plainFirst, plainRest⟩ := allRawFree_cons child children |>.mp plain
      rw [List.flatMap_cons, allRawFree_append, ih plainRest, Bool.and_true]
      cases child with
      | fields entries => exact plainFirst
      | _ => simp [parts, allRawFree, plainFirst]

theorem rowOfMember_of_single {filter : Filter}
    (single : ∀ entries, filter = .fields entries → (fieldsTexts 2 entries).length ≤ 1) :
    filter.rowOfMember = filter.formula?.toList := by
  cases filter with
  | fields entries =>
      have few := single entries rfl
      rw [fieldsTexts_two, Formula.texts_eq_map, List.length_map] at few
      exact (Formula.toList_bundle?_of_single .and few).symm
  | _ => rfl

theorem operands_of_single {children : List Filter}
    (single : ∀ entries, .fields entries ∈ children → (fieldsTexts 2 entries).length ≤ 1) :
    operands children = formulas children := by
  induction children with
  | nil => rfl
  | cons child children ih =>
      have here : child.rowOfMember = child.formula?.toList :=
        rowOfMember_of_single fun entries same => single entries (by simp [same])
      have later : operands children = formulas children :=
        ih fun entries member => single entries (List.mem_cons_of_mem _ member)
      rw [operands_cons, here, later, formulas]

theorem allAtoms_operands (children : List Filter) :
    Formula.allAtoms (operands children) = Formula.allAtoms (formulas children) := by
  have member (filter : Filter) :
      Formula.allAtoms filter.rowOfMember = Formula.allAtoms filter.formula?.toList := by
    cases filter with
    | fields entries => exact (Formula.allAtoms_bundle? .and (formulas entries)).symm
    | _ => rfl
  induction children with
  | nil => rfl
  | cons child children ih =>
      rw [operands_cons, formulas, Formula.allAtoms_append, Formula.allAtoms_append, member,
        ih]

theorem value?_or (truth : Nat → Bool) {children : List Filter}
    (plain : allRawFree children = true) :
    (Filter.group .or children).value? truth 0 =
      Formula.disjunctionValue? truth (formulas children) := by
  rw [value?, Formula.disjunctionValue?, values_formulas truth 0 children plain]

/-- The first of several conditions of an object is enough for the joined fragments,
and it is not enough for the object. -/
theorem exists_separating {children entries : List Filter}
    (plain : allRawFree children = true) (member : .fields entries ∈ children)
    (several : 1 < (fieldsTexts 2 entries).length) :
    ∃ truth, Formula.disjunctionValue? truth (operands children) ≠
      (Filter.group .or children).value? truth 0 := by
  obtain ⟨before, after, rfl⟩ := List.append_of_mem member
  rw [fieldsTexts_two, Formula.texts_eq_map, List.length_map] at several
  obtain ⟨first, second, rest, conditions⟩ :
      ∃ first second rest, formulas entries = first :: second :: rest := by
    generalize formulas entries = conditions at several
    rcases conditions with _ | ⟨first, _ | ⟨second, rest⟩⟩
    · simp at several
    · simp at several
    · exact ⟨first, second, rest, rfl⟩
  have written : operands (before ++ .fields entries :: after) =
      operands before ++ first :: (second :: rest ++ operands after) := by
    simp [operands, rowOfMember, conditions]
  have meant : formulas (before ++ .fields entries :: after) =
      formulas before ++ .joined .and first second rest :: formulas after := by
    rw [formulas_append, formulas, formula?, conditions]
    rfl
  -- Both readings number the leaves alike, so one assignment serves for both of them.
  refine ⟨Formula.holdsOn (Formula.allAtoms (operands before)).length first.atoms.length, ?_⟩
  rw [value?_or _ plain, meant, written, Formula.disjunctionValue?_of_first,
    allAtoms_operands]
  exact (Formula.disjunctionValue?_of_joined _ _ _ _ _).symm

/-- An outermost disjunction compiles to the fragments of its members joined by `OR`,
with each condition of an object a fragment of its own.  They stand for formulas that
have the leaves of the filter for atoms and the value of the disjunction in which the
entries of these objects are members themselves.  This is the value of the filter
under every assignment exactly if no member that is an object has two conditions. -/
theorem disjunction_meant_iff_objects_single (children : List Filter)
    (plain : allRawFree children = true) :
    (Filter.group .or children).whereText = " OR ".intercalate (children.flatMap memberTexts) ∧
    Formula.texts (operands children) = children.flatMap memberTexts ∧
    Formula.allAtoms (operands children) = (Filter.group .or children).leaves.map Leaf.text ∧
    (∀ truth, Formula.disjunctionValue? truth (operands children) =
      (Filter.group .or (children.flatMap parts)).value? truth 0) ∧
    ((∀ truth, Formula.disjunctionValue? truth (operands children) =
        (Filter.group .or children).value? truth 0) ↔
      ∀ entries, .fields entries ∈ children → (fieldsTexts 2 entries).length ≤ 1) := by
  refine ⟨?_, texts_operands children, allAtoms_members children plain, ?_, ?_, ?_⟩
  · rw [← texts_operands]
    exact groupText_one .or children
  · intro truth
    rw [value?_or truth (allRawFree_parts plain), operands_eq_formulas]
  · intro agrees entries member
    apply Nat.le_of_not_lt
    intro several
    obtain ⟨truth, differ⟩ := exists_separating plain member several
    exact differ (agrees truth)
  · intro single truth
    rw [value?_or truth plain, operands_of_single single]

def spreadChildren : List Filter :=
  [.fields
    [.fields [.condition "a" "==" (.scalar .null)],
     .fields [.condition "b" ">" (.scalar .null)]],
   .fields [.group .and [], .condition "c" "in" (.list [])]]

theorem spreadChildren_not_meant :
    allRawFree spreadChildren = true ∧
      (Filter.group .or spreadChildren).whereText = "a = NULL OR b > NULL OR 1 = 0" ∧
      ∃ truth, Formula.disjunctionValue? truth (operands spreadChildren) ≠
        (Filter.group .or spreadChildren).value? truth 0 := by
  have joined := disjunction_meant_iff_objects_single spreadChildren rfl
  have fragments : spreadChildren.flatMap memberTexts = ["a = NULL", "b > NULL", "1 = 0"] := by
    decide
  refine ⟨rfl, ?_, ?_⟩
  · rw [joined.1, fragments]
    rfl
  · apply Classical.not_forall.mp
    intro same
    have few := joined.2.2.2.2.mp same _ (List.mem_cons_self ..)
    revert few
    decide

end Filter

end JsonSql
