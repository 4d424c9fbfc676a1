import JsonSql.Proofs.HollowParts

/-!
# Rewriting filters in JSON

A rule says which elements of a group and which entries of an object may stand for
which others.  It is applied at one place of a filter after another: in the list the
filter is read from, in the lists and objects among its elements, and below entries
with an object or with the list of a group.  If a rule keeps the fragments of what it
is applied to, the filter compiles to the same text wherever and however often it is
applied.
-/

namespace JsonSql

namespace Json

/-- What may be written for what at one place.  The entries of an object stand below a
field if a key other than equality leads to them from their group element. -/
structure Rule where
  items : List Json → List Json → Prop
  entries : (belowField : Bool) → Record → Record → Prop

namespace Rule

mutual

inductive RewritesItems (rule : Rule) : List Json → List Json → Prop
  | here {items rewritten : List Json} : rule.items items rewritten →
      RewritesItems rule items rewritten
  | inList (before after : List Json) {items rewritten : List Json} :
      RewritesItems rule items rewritten →
        RewritesItems rule (before ++ .array items :: after)
          (before ++ .array rewritten :: after)
  | inObject (before after : List Json) {entries rewritten : Record} :
      RewritesEntries rule false entries rewritten →
        RewritesItems rule (before ++ .object entries :: after)
          (before ++ .object rewritten :: after)

inductive RewritesEntries (rule : Rule) : Bool → Record → Record → Prop
  | here {belowField : Bool} {entries rewritten : Record} :
      rule.entries belowField entries rewritten →
        RewritesEntries rule belowField entries rewritten
  | inObject {belowField : Bool} (before after : Record) (key : String)
      {entries rewritten : Record} :
      RewritesEntries rule (belowField || key != Operator.equality) entries rewritten →
        RewritesEntries rule belowField (before ++ (key, .object entries) :: after)
          (before ++ (key, .object rewritten) :: after)
  | inGroup {belowField : Bool} (before after : Record) {key : String}
      {items rewritten : List Json} : (Combinator.ofKey? key).isSome = true →
      RewritesItems rule items rewritten →
        RewritesEntries rule belowField (before ++ (key, .array items) :: after)
          (before ++ (key, .array rewritten) :: after)

end

end Rule

end Json

namespace Filter

open Relation Json DepthCounter

/-- At the place where it is applied, the rule changes no fragment but empty ones. -/
structure KeepsFragments (rule : Rule) : Prop where
  items : ∀ {items rewritten : List Json}, rule.items items rewritten →
    ∀ {Depth : Type} [DepthCounter Depth] (depth : Depth),
    nonempty (allFragments depth depth (ofItems items)) =
      nonempty (allFragments depth depth (ofItems rewritten))
  entries : ∀ {entries rewritten : Record} (field : Option String),
    rule.entries field.isSome entries rewritten →
    ∀ {Depth : Type} [DepthCounter Depth] (fieldsDepth groupDepth : Depth),
      nonempty (allFragments fieldsDepth groupDepth (ofEntries field entries)) =
        nonempty (allFragments fieldsDepth groupDepth (ofEntries field rewritten))

theorem isSome_fieldBelow (field : Option String) (key : String) :
    (fieldBelow field key).isSome = (field.isSome || key != Operator.equality) := by
  by_cases same : key = Operator.equality <;> simp [fieldBelow, same]

variable {rule : Rule} {Depth : Type} [DepthCounter Depth]

-- Elements of a group lie at one depth for objects and groups alike; an entry may hold
-- a group that is no deeper than the object around it, so its two depths are arbitrary.
mutual

theorem nonempty_of_rewritesItems (keeps : KeepsFragments rule) (depth : Depth) :
    {items rewritten : List Json} → rule.RewritesItems items rewritten →
      nonempty (allFragments depth depth (ofItems items)) =
        nonempty (allFragments depth depth (ofItems rewritten))
  | _, _, .here change => keeps.items change depth
  | _, _, .inList before after inner => by
      rw [ofItems_append, ofItems_append]
      exact nonempty_allFragments_inGroup _ _ _ _ .and
        (nonempty_of_rewritesItems keeps _ inner)
  | _, _, .inObject before after inner => by
      rw [ofItems_append, ofItems_append]
      exact nonempty_allFragments_inFields _ _ _ _
        (nonempty_of_rewritesEntries keeps none _ _ rfl inner)

theorem nonempty_of_rewritesEntries (keeps : KeepsFragments rule) (field : Option String)
    (fieldsDepth groupDepth : Depth) : {belowField : Bool} → {entries rewritten : Record} →
    field.isSome = belowField → rule.RewritesEntries belowField entries rewritten →
      nonempty (allFragments fieldsDepth groupDepth (ofEntries field entries)) =
        nonempty (allFragments fieldsDepth groupDepth (ofEntries field rewritten))
  | _, _, _, position, .here change =>
      keeps.entries field (position ▸ change) fieldsDepth groupDepth
  | _, _, _, position, .inObject before after key inner => by
      rw [ofEntries_append, ofEntries_append, ofEntries, ofEntries, ofEntry, ofEntry]
      have below : (fieldBelow field key).isSome = _ := isSome_fieldBelow field key
      rw [position] at below
      exact nonempty_allFragments_inFields _ _ _ _
        (nonempty_of_rewritesEntries keeps (fieldBelow field key) _ _ below inner)
  | _, _, _, _, .inGroup before after isGroup inner => by
      obtain ⟨combinator, found⟩ := Option.isSome_iff_exists.mp isGroup
      rw [ofEntries_append, ofEntries_append, ofEntries, ofEntries, ofEntry, ofEntry, found]
      exact nonempty_allFragments_inGroup _ _ _ _ combinator
        (nonempty_of_rewritesItems keeps _ inner)

end

theorem groupText_of_rewritten (keeps : KeepsFragments rule) {items rewritten : List Json}
    (rewrites : ReflTransGen rule.RewritesItems items rewritten) (depth : Depth)
    (combinator : Combinator) :
    groupText depth combinator (ofItems items) =
      groupText depth combinator (ofItems rewritten) := by
  induction rewrites with
  | refl => rfl
  | tail _ last ih =>
      rw [ih]
      exact joinGroup_congr (nonempty_of_rewritesItems keeps _ last) combinator _

end Filter

end JsonSql
