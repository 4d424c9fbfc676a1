import JsonSql.Proofs.Rewriting

/-!
# Lists of a group as objects

A list among the elements of a group and the object with that list under `and` are
read as different filters, the one a group and the other an object that holds the
group.  They compile to the same text: a group under a key is as deep as its object,
and a single fragment gets no parentheses around it.
-/

namespace JsonSql

namespace Json

inductive SpellsOut : List Json → List Json → Prop
  | intro (before list after : List Json) {key : String} : Text.caselessEq "and" key = true →
      SpellsOut (before ++ .array list :: after) (before ++ .object [(key, .array list)] :: after)

/-- A list may be written as an object that has it under `and`. -/
def Rule.spellOut : Rule where
  items := SpellsOut
  entries _ _ _ := False

end Json

namespace Filter

open Relation Json DepthCounter

variable {Depth : Type} [DepthCounter Depth]

theorem ofItem?_list (list : List Json) :
    ofItem? (.array list) = some (ofList .and list) := by
  rw [ofItem?, ofList]

theorem ofItem?_and_object {key : String} (isAnd : Text.caselessEq "and" key = true)
    (list : List Json) :
    ofItem? (.object [(key, .array list)]) = some (.fields [ofList .and list]) := by
  have found : Combinator.ofKey? key = some .and := by
    rw [Combinator.ofKey?, if_pos isAnd]
  rw [ofItem?, ofEntries, ofEntries, ofEntry, found, ofList]

theorem nonempty_fragments_wrapped (depth : Depth) (list : List Json) :
    nonempty (fragments depth depth (.fields [ofList .and list])) =
      nonempty (fragments depth depth (ofList .and list)) := by
  -- A group in an object has the depth of the object, which is that of the list.
  have inner : allFragments (deeper depth) depth [ofList .and list] =
      fragments depth depth (ofList .and list) := by
    rw [allFragments, allFragments, List.append_nil, ofList, fragments, fragments]
  have single : (nonempty (fragments depth depth (ofList .and list))).length ≤ 1 := by
    rw [ofList, fragments]
    exact List.length_filter_le _ _
  rw [fragments, inner, foldFields, if_neg (by omega), nonempty_nonempty]

theorem keepsFragments_spellOut : KeepsFragments Rule.spellOut where
  items := by
    rintro _ _ ⟨before, list, after, isAnd⟩ Depth _ depth
    rw [ofItems_append, ofItems_append, ofItems, ofItems, ofItem?_list,
      ofItem?_and_object isAnd, allFragments_append, allFragments_append, allFragments,
      allFragments]
    simp only [nonempty_append, nonempty_fragments_wrapped]
  entries _ change := change.elim

/-! ## Different filters -/

mutual

def objects : Filter → Nat
  | .fields entries => allObjects entries + 1
  | .group _ children => allObjects children
  | _ => 0

def allObjects : List Filter → Nat
  | [] => 0
  | filter :: filters => filter.objects + allObjects filters

end

@[simp] theorem allObjects_append (first second : List Filter) :
    allObjects (first ++ second) = allObjects first + allObjects second := by
  induction first with
  | nil => simp [allObjects]
  | cons filter first ih => rw [List.cons_append, allObjects, allObjects, ih, Nat.add_assoc]

mutual

theorem allObjects_of_rewritesItems : {items rewritten : List Json} →
    Rule.spellOut.RewritesItems items rewritten →
      allObjects (ofItems rewritten) = allObjects (ofItems items) + 1
  | _, _, .here ⟨before, list, after, isAnd⟩ => by
      rw [ofItems_append, ofItems_append, ofItems, ofItems, ofItem?_list,
        ofItem?_and_object isAnd]
      simp only [allObjects_append, allObjects, objects]
      omega
  | _, _, .inList before after inner => by
      have more := allObjects_of_rewritesItems inner
      rw [ofItems_append, ofItems_append, ofItems, ofItems, ofItem?, ofItem?]
      simp only [allObjects_append, allObjects, objects]
      omega
  | _, _, .inObject before after inner => by
      have more := allObjects_of_rewritesEntries none inner
      rw [ofItems_append, ofItems_append, ofItems, ofItems, ofItem?, ofItem?]
      simp only [allObjects_append, allObjects, objects]
      omega

theorem allObjects_of_rewritesEntries (field : Option String) : {belowField : Bool} →
    {entries rewritten : Record} → Rule.spellOut.RewritesEntries belowField entries rewritten →
      allObjects (ofEntries field rewritten) = allObjects (ofEntries field entries) + 1
  | _, _, _, .here change => change.elim
  | _, _, _, .inObject before after key inner => by
      have more := allObjects_of_rewritesEntries (fieldBelow field key) inner
      rw [ofEntries_append, ofEntries_append, ofEntries, ofEntries, ofEntry, ofEntry]
      simp only [allObjects_append, allObjects, objects]
      omega
  | _, _, _, .inGroup before after isGroup inner => by
      obtain ⟨combinator, found⟩ := Option.isSome_iff_exists.mp isGroup
      have more := allObjects_of_rewritesItems inner
      rw [ofEntries_append, ofEntries_append, ofEntries, ofEntries, ofEntry, ofEntry, found]
      simp only [allObjects_append, allObjects, objects]
      omega

end

theorem allObjects_lt_of_rewritten {items rewritten : List Json}
    (rewrites : TransGen Rule.spellOut.RewritesItems items rewritten) :
    allObjects (ofItems items) < allObjects (ofItems rewritten) := by
  induction rewrites with
  | single first =>
      have more := allObjects_of_rewritesItems first
      omega
  | tail _ last ih =>
      have more := allObjects_of_rewritesItems last
      omega

/-- A list among the elements of a group means the same text as an object with that list
under `and`, in any case of its letters: writing any number of lists in this way leaves
the text of the group as it is, at every depth however it is counted, though a list and its object are read
as different filters, and so are the values around them. -/
theorem lists_compile_as_and_objects {Depth : Type} [DepthCounter Depth] :
    (∀ items rewritten, ReflTransGen Rule.spellOut.RewritesItems items rewritten →
      ∀ (depth : Depth) combinator, groupText depth combinator (ofItems rewritten) =
        groupText depth combinator (ofItems items)) ∧
    (∀ list key, Text.caselessEq "and" key = true →
      ofItem? (.array list) = some (ofList .and list) ∧
        ofItem? (.object [(key, .array list)]) = some (.fields [ofList .and list])) ∧
    ∀ items rewritten, TransGen Rule.spellOut.RewritesItems items rewritten →
      ∀ combinator, ofList combinator rewritten ≠ ofList combinator items := by
  refine ⟨?_, ?_, ?_⟩
  · intro items rewritten rewrites depth combinator
    exact (groupText_of_rewritten keepsFragments_spellOut rewrites depth combinator).symm
  · intro list key isAnd
    exact ⟨ofItem?_list list, ofItem?_and_object isAnd list⟩
  · intro items rewritten rewrites combinator same
    have more := allObjects_lt_of_rewritten rewrites
    rw [ofList, ofList, Filter.group.injEq] at same
    rw [same.2] at more
    exact Nat.lt_irrefl _ more

def listedItems : List Json :=
  [.array [.object [("a", .null)],
    .object [("or", .array [.array [.object [("b", .null)]], .object [("c", .null)]])]],
   .object [("d", .null)]]

def spelledItems : List Json :=
  [.object [("AND", .array [.object [("a", .null)],
    .object [("or", .array
      [.object [("And", .array [.object [("b", .null)]])], .object [("c", .null)]])]])],
   .object [("d", .null)]]

theorem listedItems_spelled :
    TransGen Rule.spellOut.RewritesItems listedItems spelledItems := by
  have inner : Rule.spellOut.RewritesItems listedItems
      [.array [.object [("a", .null)], .object [("or", .array
        [.object [("And", .array [.object [("b", .null)]])], .object [("c", .null)]])]],
       .object [("d", .null)]] :=
    .inList [] _ (.inObject [_] [] (.inGroup [] [] rfl (.here (.intro [] _ _ rfl))))
  have outer : Rule.spellOut.RewritesItems
      [.array [.object [("a", .null)], .object [("or", .array
        [.object [("And", .array [.object [("b", .null)]])], .object [("c", .null)]])]],
       .object [("d", .null)]] spelledItems :=
    .here (.intro [] _ _ rfl)
  exact (TransGen.single inner).tail outer

theorem spelledItems_compile_as_lists :
    TransGen Rule.spellOut.RewritesItems listedItems spelledItems ∧
      groupText (1 : UInt64) .or (ofItems spelledItems) =
        "(a = NULL AND (b = NULL OR c = NULL)) OR d = NULL" ∧
      Text.caselessEq "and" "aND" = true ∧
      ofItem? (.object [("aND", .array listedItems)]) =
        some (.fields [ofList .and listedItems]) ∧
      ofList .or spelledItems ≠ ofList .or listedItems := by
  obtain ⟨sameText, asObject, different⟩ := @lists_compile_as_and_objects UInt64 _
  refine ⟨listedItems_spelled, ?_, rfl, (asObject listedItems "aND" rfl).2,
    different _ _ listedItems_spelled .or⟩
  rw [sameText _ _ listedItems_spelled.to_reflTransGen 1 .or]
  decide

end Filter

end JsonSql
