import Mathlib.Logic.Relation
import JsonSql.Proofs.ClauseParts
import JsonSql.Proofs.Unrestricted

/-!
# Parts that leave no trace

A part of a filter is hollow if it holds no comparison and no text.  Fragments are
counted only after the empty ones are dropped, at every level, so a hollow part
takes no place and no pair of parentheses, however deep it lies.  In JSON these
parts come from void values: elements of a group that hold no condition, and entries
with an object that holds none.
-/

namespace JsonSql

namespace Filter

open Relation DepthCounter

variable {Depth : Type} [DepthCounter Depth]

mutual

/-- No comparison, and no raw text but the empty one. -/
def isHollow : Filter → Bool
  | .condition .. => false
  | .fields entries => areHollow entries
  | .group _ children => areHollow children
  | .raw text => text == ""

def areHollow : List Filter → Bool
  | [] => true
  | filter :: filters => filter.isHollow && areHollow filters

end

/-- One hollow part less, among the filters of a list or below them. -/
inductive Drops : List Filter → List Filter → Prop
  | here (before after : List Filter) {hollow : Filter} : hollow.isHollow = true →
      Drops (before ++ hollow :: after) (before ++ after)
  | inFields (before after : List Filter) {entries rest : List Filter} :
      Drops entries rest →
        Drops (before ++ .fields entries :: after) (before ++ .fields rest :: after)
  | inGroup (before after : List Filter) (combinator : Combinator)
      {children rest : List Filter} : Drops children rest →
        Drops (before ++ .group combinator children :: after)
          (before ++ .group combinator rest :: after)

theorem allFragments_append (fieldsDepth groupDepth : Depth) (first second : List Filter) :
    allFragments fieldsDepth groupDepth (first ++ second) =
      allFragments fieldsDepth groupDepth first ++
        allFragments fieldsDepth groupDepth second := by
  simp [allFragments_eq_flatMap]

/-! ## Fragments without the empty ones -/

@[simp] theorem nonempty_nil : nonempty [] = [] := rfl

theorem joinGroup_congr {first second : List String}
    (same : nonempty first = nonempty second) (combinator : Combinator) (level : Nat) :
    joinGroup combinator level first = joinGroup combinator level second := by
  rw [joinGroup, joinGroup, same]

theorem foldFields_congr {first second : List String}
    (same : nonempty first = nonempty second) (level : Nat) :
    foldFields level first = foldFields level second := by
  rw [foldFields, foldFields, same]

mutual

theorem nonempty_fragments_of_hollow (fieldsDepth groupDepth : Depth) :
    (filter : Filter) → filter.isHollow = true →
      nonempty (filter.fragments fieldsDepth groupDepth) = []
  | .condition .., hollow => by cases hollow
  | .fields entries, hollow => by
      have none := nonempty_allFragments_of_hollow (deeper fieldsDepth) fieldsDepth entries
        hollow
      rw [fragments, foldFields_congr (none.trans nonempty_nil.symm)]
      simp [foldFields]
  | .group combinator children, hollow => by
      have none := nonempty_allFragments_of_hollow (deeper groupDepth) (deeper groupDepth)
        children hollow
      rw [fragments, joinGroup_congr (none.trans nonempty_nil.symm)]
      simp [joinGroup, joinWith, nonempty]
  | .raw text, hollow => by
      have blank : text = "" := by simpa [isHollow] using hollow
      simp [fragments, nonempty, blank]

theorem nonempty_allFragments_of_hollow (fieldsDepth groupDepth : Depth) :
    (filters : List Filter) → areHollow filters = true →
      nonempty (allFragments fieldsDepth groupDepth filters) = []
  | [], _ => rfl
  | filter :: filters, hollow => by
      obtain ⟨first, rest⟩ := (Bool.and_eq_true _ _).mp hollow
      rw [allFragments, nonempty_append, nonempty_fragments_of_hollow _ _ filter first,
        nonempty_allFragments_of_hollow _ _ filters rest, List.nil_append]

end

theorem nonempty_allFragments_inFields (fieldsDepth groupDepth : Depth)
    (before after : List Filter) {entries rest : List Filter}
    (same : nonempty (allFragments (deeper fieldsDepth) fieldsDepth entries) =
      nonempty (allFragments (deeper fieldsDepth) fieldsDepth rest)) :
    nonempty (allFragments fieldsDepth groupDepth (before ++ .fields entries :: after)) =
      nonempty (allFragments fieldsDepth groupDepth (before ++ .fields rest :: after)) := by
  rw [allFragments_append, allFragments_append, allFragments, allFragments, fragments,
    fragments, foldFields_congr same]

theorem nonempty_allFragments_inGroup (fieldsDepth groupDepth : Depth)
    (before after : List Filter) (combinator : Combinator) {children rest : List Filter}
    (same : nonempty (allFragments (deeper groupDepth) (deeper groupDepth) children) =
      nonempty (allFragments (deeper groupDepth) (deeper groupDepth) rest)) :
    nonempty (allFragments fieldsDepth groupDepth
        (before ++ .group combinator children :: after)) =
      nonempty (allFragments fieldsDepth groupDepth
        (before ++ .group combinator rest :: after)) := by
  rw [allFragments_append, allFragments_append, allFragments, allFragments, fragments,
    fragments, joinGroup_congr same]

-- The place of the change may lie at any depth, so the depths are arbitrary in the
-- induction.
theorem Drops.nonempty_allFragments {filters rest : List Filter} (drops : Drops filters rest)
    (fieldsDepth groupDepth : Depth) :
    nonempty (allFragments fieldsDepth groupDepth filters) =
      nonempty (allFragments fieldsDepth groupDepth rest) := by
  induction drops generalizing fieldsDepth groupDepth with
  | here before after hollow =>
      rw [allFragments_append, allFragments_append, allFragments, nonempty_append,
        nonempty_append, nonempty_append, nonempty_fragments_of_hollow _ _ _ hollow,
        List.nil_append]
  | inFields before after _ ih =>
      exact nonempty_allFragments_inFields _ _ before after (ih _ _)
  | inGroup before after combinator _ ih =>
      exact nonempty_allFragments_inGroup _ _ before after combinator (ih _ _)

mutual

theorem isHollow_of_isVoid : (item : Json) → item.isVoid = true →
    ∀ filter ∈ ofItem? item, filter.isHollow = true
  | .object entries, void, _, rfl => areHollow_of_areVoidEntries none entries void
  | .array items, void, _, rfl => areHollow_of_areVoid items void

theorem areHollow_of_areVoid : (items : List Json) → Json.areVoid items = true →
    areHollow (ofItems items) = true
  | [], _ => rfl
  | item :: items, void => by
      obtain ⟨first, rest⟩ := (Bool.and_eq_true _ _).mp void
      have later := areHollow_of_areVoid items rest
      rw [ofItems]
      cases found : ofItem? item with
      | none => exact later
      | some filter =>
          rw [areHollow, isHollow_of_isVoid item first filter found, later, Bool.and_true]

theorem isHollow_of_isVoidUnder (field : Option String) (key : String) : (value : Json) →
    value.isVoidUnder key = true → (ofEntry field key value).isHollow = true
  | .object entries, void => areHollow_of_areVoidEntries (fieldBelow field key) entries void
  | .array items, void => by
      obtain ⟨isGroup, inner⟩ := (Bool.and_eq_true _ _).mp void
      obtain ⟨combinator, found⟩ := Option.isSome_iff_exists.mp isGroup
      rw [ofEntry, found]
      exact areHollow_of_areVoid items inner

theorem areHollow_of_areVoidEntries (field : Option String) :
    (entries : List (String × Json)) → Json.areVoidEntries entries = true →
      areHollow (ofEntries field entries) = true
  | [], _ => rfl
  | (key, value) :: entries, void => by
      obtain ⟨first, rest⟩ := (Bool.and_eq_true _ _).mp void
      rw [ofEntries, areHollow, isHollow_of_isVoidUnder field key value first,
        areHollow_of_areVoidEntries field entries rest, Bool.and_true]

end

end Filter

namespace Json

open Relation

mutual

/-- One void element more in the list of a group, or a void part more somewhere inside
of an element. -/
inductive PadsItems : List Json → List Json → Prop
  | insert (before : List Json) (item : Json) (after : List Json) : item.isVoid = true →
      PadsItems (before ++ after) (before ++ item :: after)
  | inList (before after : List Json) {items padded : List Json} :
      PadsItems items padded →
        PadsItems (before ++ .array items :: after) (before ++ .array padded :: after)
  | inObject (before after : List Json) {entries padded : Record} :
      PadsEntries entries padded →
        PadsItems (before ++ .object entries :: after) (before ++ .object padded :: after)

inductive PadsEntries : Record → Record → Prop
  | insert (before after : Record) {key : String} {value : Json} :
      value.isVoidUnder key = true →
        PadsEntries (before ++ after) (before ++ (key, value) :: after)
  | inObject (before after : Record) (key : String) {entries padded : Record} :
      PadsEntries entries padded →
        PadsEntries (before ++ (key, .object entries) :: after)
          (before ++ (key, .object padded) :: after)
  | inGroup (before after : Record) {key : String} {items padded : List Json} :
      (Combinator.ofKey? key).isSome = true → PadsItems items padded →
        PadsEntries (before ++ (key, .array items) :: after)
          (before ++ (key, .array padded) :: after)

end

end Json

namespace Filter

open Relation

theorem drops_inFields (before after : List Filter) {entries rest : List Filter}
    (drops : ReflTransGen Drops entries rest) :
    ReflTransGen Drops (before ++ .fields entries :: after) (before ++ .fields rest :: after) :=
  drops.lift (fun inner => before ++ .fields inner :: after) fun _ _ => .inFields before after

theorem drops_inGroup (before after : List Filter) (combinator : Combinator)
    {children rest : List Filter} (drops : ReflTransGen Drops children rest) :
    ReflTransGen Drops (before ++ .group combinator children :: after)
      (before ++ .group combinator rest :: after) :=
  drops.lift (fun inner => before ++ .group combinator inner :: after)
    fun _ _ => .inGroup before after combinator

mutual

theorem drops_of_padsItems : {items padded : List Json} → Json.PadsItems items padded →
    ReflTransGen Drops (ofItems padded) (ofItems items)
  | _, _, .insert before item after void => by
      rw [ofItems_append, ofItems_append, ofItems]
      cases found : ofItem? item with
      | none => exact .refl
      | some filter => exact .single (.here _ _ (isHollow_of_isVoid item void filter found))
  | _, _, .inList before after pads => by
      rw [ofItems_append, ofItems_append]
      exact drops_inGroup _ _ .and (drops_of_padsItems pads)
  | _, _, .inObject before after pads => by
      rw [ofItems_append, ofItems_append]
      exact drops_inFields _ _ (drops_of_padsEntries none pads)

theorem drops_of_padsEntries (field : Option String) : {entries padded : Record} →
    Json.PadsEntries entries padded →
      ReflTransGen Drops (ofEntries field padded) (ofEntries field entries)
  | _, _, .insert before after void => by
      rw [ofEntries_append, ofEntries_append, ofEntries]
      exact .single (.here _ _ (isHollow_of_isVoidUnder field _ _ void))
  | _, _, .inObject before after key pads => by
      rw [ofEntries_append, ofEntries_append, ofEntries, ofEntries, ofEntry, ofEntry]
      exact drops_inFields _ _ (drops_of_padsEntries (fieldBelow field key) pads)
  | _, _, .inGroup before after isGroup pads => by
      obtain ⟨combinator, found⟩ := Option.isSome_iff_exists.mp isGroup
      rw [ofEntries_append, ofEntries_append, ofEntries, ofEntries, ofEntry, ofEntry, found]
      exact drops_inGroup _ _ combinator (drops_of_padsItems pads)

end

end Filter

end JsonSql
