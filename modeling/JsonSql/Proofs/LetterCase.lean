import JsonSql.Proofs.Rewriting

/-!
# Letter case of keys

Two keys that differ in the case of ASCII letters only are the same token wherever a
token is looked for: they name one combinator, they are found at the same row of the
operator table or at none, and without a row they have one upper-case form.  So the
keys of a filter that are tokens may be written in any case, and the filter compiles
to the same text.
-/

namespace JsonSql

namespace Text

variable {left right : String}

theorem lookup_upperExpansions {code : Nat} (ascii : code < 128) :
    upperExpansions.lookup code = none := by
  have behind : ∀ entry ∈ upperExpansions, 128 ≤ entry.1 := by decide
  rw [List.lookup_eq_none_iff]
  intro entry member
  have later := behind entry member
  exact bne_iff_ne.mpr (by omega)

-- One run of letters lies in ASCII, and it is the first.
theorem findSome?_upperRuns {code : Nat} (ascii : code < 128) :
    upperRuns.findSome? (fun run => run.image? code) =
      if 97 ≤ code ∧ code ≤ 122 then some (code - 32) else none := by
  have behind : ∀ run ∈ upperRuns.tail, 128 ≤ run.first := by decide +kernel
  have others : upperRuns.tail.findSome? (fun run => run.image? code) = none := by
    rw [List.findSome?_eq_none_iff]
    intro run member
    have later := behind run member
    rw [CaseRun.image?, if_neg (by omega)]
  have runs : upperRuns = ⟨97, 122, 1, 65⟩ :: upperRuns.tail := rfl
  rw [runs, List.findSome?_cons, others]
  simp only [CaseRun.image?, Nat.mod_one, and_true]
  by_cases small : 97 ≤ code ∧ code ≤ 122
  · have moved : 65 + (code - 97) = code - 32 := by omega
    rw [if_pos small, if_pos small, moved]
  · rw [if_neg small, if_neg small]

theorem upperCodes_of_ascii {code : Nat} (ascii : code < 128) :
    upperCodes code = if 97 ≤ code ∧ code ≤ 122 then [code - 32] else [code] := by
  rw [upperCodes, lookup_upperExpansions ascii, findSome?_upperRuns ascii]
  by_cases small : 97 ≤ code ∧ code ≤ 122
  · rw [if_pos small, if_pos small]
  · rw [if_neg small, if_neg small]

theorem upperChar_toLower (char : Char) : upperChar char.toLower = upperChar char := by
  have small : ∀ code ∈ List.range' 65 26,
      (Char.ofNat code).toLower.toNat = code + 32 := by decide
  by_cases capital : char.val ≥ 'A'.val ∧ char.val ≤ 'Z'.val
  · have least : 65 ≤ char.toNat := capital.1
    have greatest : char.toNat ≤ 90 := capital.2
    have moved := small char.toNat (List.mem_range'_1.mpr (by omega))
    rw [Char.ofNat_toNat] at moved
    rw [upperChar, upperChar, moved, upperCodes_of_ascii (by omega),
      upperCodes_of_ascii (by omega), if_pos (by omega), if_neg (by omega),
      Nat.add_sub_cancel]
  · have kept : char.toLower = char := dif_neg capital
    rw [kept]

theorem upper_congr (same : caselessEq left right = true) : upper left = upper right := by
  have throughLower (text : String) : text.toList.flatMap upperChar =
      (text.toList.map Char.toLower).flatMap upperChar := by
    rw [List.flatMap_map]
    simp only [upperChar_toLower]
  rw [caselessEq_iff] at same
  rw [upper, upper, throughLower left, same, ← throughLower right]

theorem caselessEq_congr (same : caselessEq left right = true) (word : String) :
    caselessEq word left = caselessEq word right := by
  rw [caselessEq_iff] at same
  rw [caselessEq, caselessEq, same]

end Text

/-! ## Tokens -/

variable {token other : String}

theorem Combinator.ofKey?_congr (same : Text.caselessEq token other = true) :
    ofKey? token = ofKey? other := by
  rw [ofKey?, ofKey?, Text.caselessEq_congr same, Text.caselessEq_congr same]

namespace Operator

theorem lookup?_congr (same : Text.caselessEq token other = true) :
    lookup? token = lookup? other := by
  simp only [lookup?, Text.caselessEq_congr same]

theorem isKnown_congr (same : Text.caselessEq token other = true) :
    isKnown token = isKnown other := by
  rw [isKnown, isKnown, lookup?_congr same]

theorem resolve_congr (same : Text.caselessEq token other = true) :
    resolve token = resolve other := by
  rw [resolve, resolve, lookup?_congr same, Text.upper_congr same]

theorem isMembership_congr (same : Text.caselessEq token other = true) :
    isMembership token = isMembership other := by
  rw [isMembership, isMembership, resolve_congr same]

theorem isCaseless_congr (same : Text.caselessEq token other = true) :
    isCaseless token = isCaseless other := by
  simp only [isCaseless, Text.caselessEq_congr same]

theorem compare_congr (same : Text.caselessEq token other = true) (field value : String) :
    compare field token value = compare field other value := by
  rw [compare, compare, isCaseless_congr same, resolve_congr same]

end Operator

theorem Filter.conditionText_congr (same : Text.caselessEq token other = true)
    (field : String) (operand : Operand) :
    conditionText field token operand = conditionText field other operand := by
  simp only [conditionText, Operator.isMembership_congr same, Operator.compare_congr same]

namespace Json

/-- The key of this value is a token and no name of a field: it starts a group, or it is
an operator below a field. -/
def keyIsToken (belowField : Bool) (key : String) : Json → Bool
  | .object _ => false
  | .array _ => belowField || (Combinator.ofKey? key).isSome
  | _ => belowField && Operator.isKnown key

inductive Recases (belowField : Bool) : Record → Record → Prop
  | intro (before after : Record) {key other : String} {value : Json} :
      value.keyIsToken belowField key = true → Text.caselessEq key other = true →
        Recases belowField (before ++ (key, value) :: after) (before ++ (other, value) :: after)

def Rule.recase : Rule where
  items _ _ := False
  entries := Recases

end Json

namespace Filter

open Relation Json

variable {Depth : Type} [DepthCounter Depth]

theorem fragments_condition_congr (same : Text.caselessEq token other = true)
    (fieldsDepth groupDepth : Depth) (field : String) (operand : Operand) :
    fragments fieldsDepth groupDepth (.condition field token operand) =
      fragments fieldsDepth groupDepth (.condition field other operand) := by
  rw [fragments, fragments, conditionText_congr same]

theorem fragments_recased (field : Option String) {key other : String} {value : Json}
    (isToken : value.keyIsToken field.isSome key = true)
    (same : Text.caselessEq key other = true) (fieldsDepth groupDepth : Depth) :
    fragments fieldsDepth groupDepth (ofEntry field key value) =
      fragments fieldsDepth groupDepth (ofEntry field other value) := by
  cases value with
  | object entries => cases isToken
  | array items =>
      rw [ofEntry, ofEntry, ← Combinator.ofKey?_congr same]
      cases found : Combinator.ofKey? key with
      | some combinator => rfl
      | none =>
          obtain ⟨name, rfl⟩ : ∃ name, field = some name := by
            simpa [keyIsToken, found, Option.isSome_iff_exists] using isToken
          exact fragments_condition_congr same _ _ name (.list items)
  | _ =>
      obtain ⟨below, known⟩ := (Bool.and_eq_true _ _).mp isToken
      obtain ⟨name, rfl⟩ := Option.isSome_iff_exists.mp below
      have knownOther := (Operator.isKnown_congr same).symm.trans known
      simp only [ofEntry, ofScalar, known, knownOther, if_true]
      exact fragments_condition_congr same _ _ name _

theorem keepsFragments_recase : KeepsFragments Rule.recase where
  items change := change.elim
  entries := by
    rintro _ _ field ⟨before, after, isToken, same⟩ Depth _ fieldsDepth groupDepth
    rw [ofEntries_append, ofEntries_append, ofEntries, ofEntries, allFragments_append,
      allFragments_append, allFragments, allFragments, fragments_recased field isToken same]

/-- Operators and combinators are read in any case of their ASCII letters.  A token and
its other spelling are resolved, recognized, compared without case and taken for a test
of membership alike, whether or not the table has them, and make the same text of a
comparison.  Any number of keys of a filter that are tokens may be written in another
case, and each group compiles to the same text, at every depth however it is
counted. -/
theorem tokens_read_in_any_case {Depth : Type} [DepthCounter Depth] :
    (∀ token other, Text.caselessEq token other = true →
      Combinator.ofKey? token = Combinator.ofKey? other ∧
        Operator.isKnown token = Operator.isKnown other ∧
        Operator.resolve token = Operator.resolve other ∧
        Operator.isMembership token = Operator.isMembership other ∧
        Operator.isCaseless token = Operator.isCaseless other ∧
        ∀ field operand, conditionText field token operand =
          conditionText field other operand) ∧
    ∀ items recased, ReflTransGen Rule.recase.RewritesItems items recased →
      ∀ (depth : Depth) combinator, groupText depth combinator (ofItems items) =
        groupText depth combinator (ofItems recased) := by
  constructor
  · intro token other same
    exact ⟨Combinator.ofKey?_congr same, Operator.isKnown_congr same,
      Operator.resolve_congr same, Operator.isMembership_congr same,
      Operator.isCaseless_congr same, conditionText_congr same⟩
  · intro items recased rewrites depth combinator
    exact groupText_of_rewritten keepsFragments_recase rewrites depth combinator

def tokenItems (group caseless membership unlisted : String) : List Json :=
  [.object [(group, .array
    [.object [("a", .object [(caseless, .string "x"), (membership, .array [])])],
     .object [("in", .object [("==", .object [(unlisted, .array [.null])])])]])]]

theorem tokenItems_recased :
    ReflTransGen Rule.recase.RewritesItems (tokenItems "or" "ilike" "in" "near")
      (tokenItems "oR" "ILike" "IN" "Near") := by
  have group : Rule.recase.RewritesItems (tokenItems "or" "ilike" "in" "near")
      (tokenItems "oR" "ilike" "in" "near") :=
    .inObject [] [] (.here (.intro [] [] rfl rfl))
  have caseless : Rule.recase.RewritesItems (tokenItems "oR" "ilike" "in" "near")
      (tokenItems "oR" "ILike" "in" "near") :=
    .inObject [] [] (.inGroup [] [] rfl (.inObject [] _ (.inObject [] [] "a"
      (.here (.intro [] _ rfl rfl)))))
  have membership : Rule.recase.RewritesItems (tokenItems "oR" "ILike" "in" "near")
      (tokenItems "oR" "ILike" "IN" "near") :=
    .inObject [] [] (.inGroup [] [] rfl (.inObject [] _ (.inObject [] [] "a"
      (.here (.intro [_] [] rfl rfl)))))
  have unlisted : Rule.recase.RewritesItems (tokenItems "oR" "ILike" "IN" "near")
      (tokenItems "oR" "ILike" "IN" "Near") :=
    .inObject [] [] (.inGroup [] [] rfl (.inObject [_] [] (.inObject [] [] "in"
      (.inObject [] [] "==" (.here (.intro [] [] rfl rfl))))))
  exact (((ReflTransGen.single group).tail caseless).tail membership).tail unlisted

theorem tokenItems_read_in_any_case :
    Text.caselessEq "ilike" "ILike" = true ∧
      conditionText "a" "ilike" (.scalar (.string "x")) =
        conditionText "a" "ILike" (.scalar (.string "x")) ∧
      ReflTransGen Rule.recase.RewritesItems (tokenItems "or" "ilike" "in" "near")
        (tokenItems "oR" "ILike" "IN" "Near") ∧
      groupText (1 : UInt64) .and (ofItems (tokenItems "or" "ilike" "in" "near")) =
        groupText (1 : UInt64) .and (ofItems (tokenItems "oR" "ILike" "IN" "Near")) ∧
      groupText (1 : UInt64) .and (ofItems (tokenItems "or" "ilike" "in" "near")) =
        "((LOWER(a) LIKE LOWER('x') AND 1 = 0) OR in NEAR (NULL))" := by
  obtain ⟨token, filter⟩ := @tokens_read_in_any_case UInt64 _
  obtain ⟨-, -, -, -, -, condition⟩ := token "ilike" "ILike" rfl
  refine ⟨rfl, condition "a" _, tokenItems_recased, filter _ _ tokenItems_recased 1 .and, ?_⟩
  decide

end Filter

end JsonSql
