import JsonSql.Operator
import JsonSql.Proofs.UpperCase

/-!
# Resolution of operator tokens

A token means the operator that the table has for its upper-case form, and else this
form itself.  Resolution finds tokens in the table by their ASCII letters only, and one
letter outside of ASCII has an upper-case form made of letters of the table, the i
without a dot.  So a token resolves to what it means unless this letter stands in it and
the table gives its upper-case form another operator.
-/

namespace JsonSql

namespace Text

def dotlessI : Char := 'ı'

theorem upperChar_dotlessI : upperChar dotlessI = ['I'] := by decide

/-- Forms that are no letter of an operator token: those outside of ASCII, and two letters
that ligatures and the long s are written with. -/
def IsForeignCode (code : Nat) : Prop := 128 ≤ code ∨ code = 0x46 ∨ code = 0x53

instance (code : Nat) : Decidable (IsForeignCode code) :=
  inferInstanceAs (Decidable (_ ∨ _ ∨ _))

theorem exists_foreign_upperCode {code : Nat} (notAscii : 128 ≤ code)
    (notDotless : code ≠ 0x131) : ∃ form ∈ upperCodes code, IsForeignCode form := by
  unfold upperCodes
  cases expanded : upperExpansions.lookup code with
  | some codes =>
      have all : ∀ entry ∈ upperExpansions, ∃ form ∈ entry.2, IsForeignCode form := by
        decide +kernel
      obtain ⟨before, after, table, -⟩ := List.lookup_eq_some_iff.mp expanded
      exact all (code, codes) (by simp [table])
  | none =>
      cases found : upperRuns.findSome? (fun run => run.image? code) with
      | none => exact ⟨code, by simp, .inl notAscii⟩
      | some image =>
          -- A run outside of ASCII with forms inside of it is one letter: this one or the long s.
          have all : ∀ run ∈ upperRuns, run.last < 128 ∨ 128 ≤ run.upper ∨
              run.first = run.last ∧ (run.first = 0x131 ∨ run.upper = 0x53) := by
            decide +kernel
          obtain ⟨run, inRuns, isImage⟩ := List.exists_of_findSome?_eq_some found
          obtain ⟨⟨least, greatest, -⟩, rfl⟩ := CaseRun.image?_eq_some_iff.mp isImage
          refine ⟨_, List.mem_singleton_self _, ?_⟩
          have place := all run inRuns
          rw [IsForeignCode]
          omega

theorem exists_foreign_upperChar {char : Char} (notAscii : 128 ≤ char.toNat)
    (notDotless : char ≠ dotlessI) : ∃ form ∈ upperChar char, IsForeignCode form.toNat := by
  have otherCode : char.toNat ≠ 0x131 := by
    intro same
    apply notDotless
    rw [← Char.ofNat_toNat char, same]
    rfl
  obtain ⟨code, inForms, foreign⟩ := exists_foreign_upperCode notAscii otherCode
  refine ⟨Char.ofNat code, List.mem_map_of_mem inForms, ?_⟩
  have valid : code.isValidChar := by
    rcases upperCodes_cases char.toNat with same | ⟨-, forms⟩
    · obtain rfl : code = char.toNat := by simpa [same] using inForms
      exact char.valid
    · exact (forms code inForms).valid
  have sameCode : (Char.ofNat code).toNat = code := by
    rw [Char.ofNat, dif_pos valid]
    rfl
  rwa [sameCode]

theorem map_toLower_upperChar {char : Char} (ascii : char.toNat < 128) :
    (upperChar char).map Char.toLower = [char.toLower] := by
  have small : ∀ code ∈ List.range' 97 26,
      (Char.ofNat (code - 32)).toLower = (Char.ofNat code).toLower := by decide
  rw [upperChar, upperCodes_of_ascii ascii]
  split
  · rename_i lower
    have here := small char.toNat (List.mem_range'_1.mpr (by omega))
    rw [List.map_singleton, List.map_singleton, here, Char.ofNat_toNat]
  · rw [List.map_singleton, List.map_singleton, Char.ofNat_toNat]

theorem map_toLower_flatMap_upperChar {chars : List Char}
    (ascii : ∀ char ∈ chars, char.toNat < 128) :
    (chars.flatMap upperChar).map Char.toLower = chars.map Char.toLower := by
  induction chars with
  | nil => rfl
  | cons char chars ih =>
      obtain ⟨here, later⟩ := List.forall_mem_cons.mp ascii
      rw [List.flatMap_cons, List.map_append, map_toLower_upperChar here, ih later]
      rfl

theorem upper_of_noSmall {text : String} (noSmall : ∀ char ∈ text.toList, char.toNat < 97) :
    upper text = text := by
  have kept : ∀ char ∈ text.toList, upperChar char = [char] := by
    intro char member
    have before := noSmall char member
    rw [upperChar, upperCodes_of_ascii (by omega), if_neg (by omega), List.map_singleton,
      Char.ofNat_toNat]
  rw [← String.toList_inj, toList_upper, List.flatMap_congr kept, List.flatMap_singleton']

theorem dotlessI_not_mem_upper (text : String) : dotlessI ∉ (upper text).toList := by
  rw [toList_upper]
  intro member
  obtain ⟨char, -, inForms⟩ := List.mem_flatMap.mp member
  have fixed := upperChar_of_mem inForms
  rw [upperChar_dotlessI] at fixed
  revert fixed
  decide

theorem capitalI_mem_upper {text : String} (dotless : dotlessI ∈ text.toList) :
    'I' ∈ (upper text).toList := by
  rw [toList_upper]
  exact List.mem_flatMap.mpr ⟨dotlessI, dotless, by simp [upperChar_dotlessI]⟩

end Text

namespace Operator

open Text

theorem upper_of_mem_table {row : String × String} (member : row ∈ table) :
    upper row.1 = row.1 ∧ upper row.2 = row.2 := by
  have all : (table.all fun row => (row.1 ++ row.2).toList.all fun char =>
      decide (char.toNat < 97)) = true := by decide
  have plain := List.all_eq_true.mp all row member
  simp only [String.toList_append, List.all_append, Bool.and_eq_true, List.all_eq_true,
    decide_eq_true_eq] at plain
  exact ⟨upper_of_noSmall plain.1, upper_of_noSmall plain.2⟩

theorem not_foreign_of_mem_table {row : String × String} (member : row ∈ table)
    {char : Char} (letter : char ∈ row.1.toList) : ¬ IsForeignCode char.toNat := by
  have all : (table.all fun row => row.1.toList.all fun char =>
      !decide (IsForeignCode char.toNat)) = true := by decide
  have plain := List.all_eq_true.mp (List.all_eq_true.mp all row member) char letter
  simpa using plain

theorem dotlessI_not_mem_of_caselessEq {row : String × String} (member : row ∈ table)
    {token : String} (same : caselessEq row.1 token = true) : dotlessI ∉ token.toList := by
  have all : (table.all fun row =>
      !(row.1.toList.map Char.toLower).contains dotlessI.toLower) = true := by decide
  have absent := List.all_eq_true.mp all row member
  rw [caselessEq_iff.mp same] at absent
  intro dotless
  have present := List.mem_map_of_mem (f := Char.toLower) dotless
  simp [present] at absent

theorem caselessEq_table_iff {row : String × String} (member : row ∈ table)
    (token : String) :
    caselessEq row.1 token = true ↔ dotlessI ∉ token.toList ∧ upper token = row.1 := by
  constructor
  · intro same
    refine ⟨dotlessI_not_mem_of_caselessEq member same, ?_⟩
    rw [← upper_congr same, (upper_of_mem_table member).1]
  · rintro ⟨noDotless, form⟩
    have ascii : ∀ char ∈ token.toList, char.toNat < 128 := by
      intro char inToken
      by_contra notAscii
      obtain ⟨other, inForms, foreign⟩ := exists_foreign_upperChar (Nat.le_of_not_lt notAscii)
        fun same => noDotless (same ▸ inToken)
      refine not_foreign_of_mem_table member ?_ foreign
      rw [← form, toList_upper]
      exact List.mem_flatMap.mpr ⟨char, inToken, inForms⟩
    rw [caselessEq_iff, ← form, toList_upper, map_toLower_flatMap_upperChar ascii]

/-! ## What a token means -/

/-- The operator that the table has for the upper-case form, or else this form. -/
def meant (token : String) : String :=
  (table.lookup (upper token)).getD (upper token)

/-- The tokens with an I that stand for another operator than their own text. -/
def aliases : List String := ["INQ", "NOTIN", "NIN", "NLIKE", "ILIKE", "LIKEI"]

def membershipTokens : List String := ["IN", "INQ", "NOTIN", "NIN", "NOT IN"]

/-- Only the upper-case form of the token is in the table, and it is an alias there. -/
def IsMissed (token : String) : Prop :=
  dotlessI ∈ token.toList ∧ upper token ∈ aliases

instance (token : String) : Decidable (IsMissed token) :=
  inferInstanceAs (Decidable (_ ∧ _))

theorem mem_aliases_iff {row : String × String} (member : row ∈ table)
    (capital : 'I' ∈ row.1.toList) : row.1 ∈ aliases ↔ row.1 ≠ row.2 := by
  have all : ∀ row ∈ table, 'I' ∈ row.1.toList → (row.1 ∈ aliases ↔ row.1 ≠ row.2) := by
    decide
  exact all row member capital

theorem mem_membershipTokens_iff {row : String × String} (member : row ∈ table) :
    row.1 ∈ membershipTokens ↔ row.2 = "IN" ∨ row.2 = "NOT IN" := by
  have all : ∀ row ∈ table,
      (row.1 ∈ membershipTokens ↔ row.2 = "IN" ∨ row.2 = "NOT IN") := by decide
  exact all row member

theorem map_find?_eq_lookup {rows : List (String × String)} {matching : String × String → Bool}
    {key : String} (same : ∀ row ∈ rows, matching row = (key == row.1)) :
    (rows.find? matching).map (·.2) = rows.lookup key := by
  induction rows with
  | nil => rfl
  | cons row rows ih =>
      obtain ⟨here, later⟩ := List.forall_mem_cons.mp same
      rw [List.find?_cons, List.lookup_cons, here]
      split
      · rfl
      · exact ih later

theorem lookup?_eq (token : String) :
    lookup? token =
      if dotlessI ∈ token.toList then none else table.lookup (upper token) := by
  split
  · rename_i dotless
    have noRow : table.find? (fun row => caselessEq row.1 token) = none := by
      rw [List.find?_eq_none]
      intro row member found
      exact ((caselessEq_table_iff member token).mp found).1 dotless
    rw [lookup?, noRow]
    rfl
  · rename_i noDotless
    apply map_find?_eq_lookup
    intro row member
    rw [Bool.eq_iff_iff, caselessEq_table_iff member, beq_iff_eq]
    exact and_iff_right noDotless

theorem resolve_eq (token : String) :
    resolve token = if dotlessI ∈ token.toList then upper token else meant token := by
  rw [resolve, lookup?_eq]
  split <;> rfl

theorem meant_cases (token : String) :
    (upper token ∉ table.map (·.1) ∧ meant token = upper token) ∨
      ∃ row ∈ table, upper token = row.1 ∧ meant token = row.2 := by
  rw [meant]
  cases found : table.lookup (upper token) with
  | none =>
      refine .inl ⟨?_, rfl⟩
      rw [List.lookup_eq_none_iff] at found
      rintro inTable
      obtain ⟨row, member, same⟩ := List.mem_map.mp inTable
      exact bne_iff_ne.mp (found row member) same.symm
  | some operator =>
      obtain ⟨before, after, rows, -⟩ := List.lookup_eq_some_iff.mp found
      exact .inr ⟨(upper token, operator), by simp [rows], rfl, rfl⟩

theorem upper_eq_meant_iff {token : String} (dotless : dotlessI ∈ token.toList) :
    upper token = meant token ↔ upper token ∉ aliases := by
  rcases meant_cases token with ⟨unlisted, same⟩ | ⟨row, member, form, operator⟩
  · have listed : ∀ form ∈ aliases, form ∈ table.map (·.1) := by decide
    refine iff_of_true same.symm fun isAlias => unlisted ?_
    exact listed _ isAlias
  · have capital := capitalI_mem_upper dotless
    rw [form] at capital
    rw [form, operator, mem_aliases_iff member capital, not_not]

theorem meant_mem_iff (token : String) :
    meant token = "IN" ∨ meant token = "NOT IN" ↔ upper token ∈ membershipTokens := by
  rcases meant_cases token with ⟨unlisted, same⟩ | ⟨row, member, form, operator⟩
  · have others : ∀ form ∈ membershipTokens,
        form ∈ table.map (·.1) ∨ form = "NOT IN" := by decide
    have listed : "IN" ∈ table.map (·.1) := by decide
    rw [same]
    constructor
    · rintro (isIn | isNotIn)
      · rw [isIn] at unlisted
        exact absurd listed unlisted
      · rw [isNotIn]
        decide
    · intro isToken
      exact .inr ((others _ isToken).resolve_left unlisted)
  · rw [operator, form, mem_membershipTokens_iff member]

theorem resolve_upper (token : String) : resolve (upper token) = meant token := by
  rw [resolve_eq, if_neg (dotlessI_not_mem_upper token), meant, upper_upper, meant]

theorem resolve_meant (token : String) : resolve (meant token) = meant token := by
  rcases meant_cases token with ⟨-, same⟩ | ⟨row, member, -, operator⟩
  · rw [same, resolve_upper, same]
  · have all : ∀ row ∈ table, (table.lookup row.2).getD row.2 = row.2 := by decide
    have same := (upper_of_mem_table member).2
    rw [operator, ← same, resolve_upper, meant, same, all row member]

theorem resolve_resolve (token : String) : resolve (resolve token) = meant token := by
  rw [resolve_eq token]
  split
  · exact resolve_upper token
  · exact resolve_meant token

theorem resolve_eq_meant_iff_not_isMissed (token : String) :
    resolve token = meant token ↔ ¬ IsMissed token := by
  rw [resolve_eq, IsMissed]
  split
  · rename_i dotless
    rw [upper_eq_meant_iff dotless]
    simp [dotless]
  · rename_i noDotless
    simp [noDotless]

theorem isMembership_iff (token : String) :
    isMembership token = true ↔ upper token ∈ membershipTokens ∧ ¬ IsMissed token := by
  rw [isMembership, Bool.or_eq_true, decide_eq_true_eq, decide_eq_true_eq]
  by_cases missed : IsMissed token
  · have noOperator : ∀ form ∈ aliases, ¬ (form = "IN" ∨ form = "NOT IN") := by decide
    rw [resolve_eq, if_pos missed.1]
    simp [missed, noOperator _ missed.2]
  · rw [(resolve_eq_meant_iff_not_isMissed token).mpr missed, meant_mem_iff]
    simp [missed]

/-- A token resolves to what it means, and resolving it once more changes nothing, unless
an i without a dot hides an alias from the table; then it resolves to its upper-case form,
and to what it means only if it is resolved twice.  The same tokens are missing among the
tests of membership. -/
theorem resolves_to_meant_iff (token : String) :
    (resolve token = meant token ↔ ¬ IsMissed token) ∧
      (resolve (resolve token) = resolve token ↔ ¬ IsMissed token) ∧
      resolve (resolve token) = meant token ∧
      (isMembership token = true ↔ upper token ∈ membershipTokens ∧ ¬ IsMissed token) := by
  have once := resolve_eq_meant_iff_not_isMissed token
  have twice := resolve_resolve token
  refine ⟨once, ?_, twice, isMembership_iff token⟩
  rw [twice, eq_comm]
  exact once

theorem dotlessToken_missed :
    IsMissed "ınq" ∧ meant "ınq" = "IN" ∧ resolve "ınq" = "INQ" ∧
      resolve (resolve "ınq") = "IN" ∧ upper "ınq" ∈ membershipTokens ∧
      isMembership "ınq" = false := by
  decide

end Operator

end JsonSql
