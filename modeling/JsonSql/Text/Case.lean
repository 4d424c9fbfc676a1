import JsonSql.Text.UpperTable

/-!
# Letter case

Keywords and column labels are compared without regard to the case of the
ASCII letters, so that no other letter ever meets an ASCII one.  Texts that are
passed through are upper-cased over the whole character set, where one letter
may become several.
-/

namespace JsonSql.Text

def caselessEq (left right : String) : Bool :=
  left.toList.map Char.toLower == right.toList.map Char.toLower

theorem caselessEq_iff {left right : String} :
    caselessEq left right = true ↔
      left.toList.map Char.toLower = right.toList.map Char.toLower := by
  simp [caselessEq]

@[simp] theorem caselessEq_refl (text : String) : caselessEq text text = true := by
  simp [caselessEq_iff]

def CaseRun.image? (run : CaseRun) (code : Nat) : Option Nat :=
  if run.first ≤ code ∧ code ≤ run.last ∧ (code - run.first) % run.step = 0 then
    some (run.upper + (code - run.first))
  else
    none

def upperCodes (code : Nat) : List Nat :=
  match upperExpansions.lookup code with
  | some codes => codes
  | none =>
      match upperRuns.findSome? (fun run => run.image? code) with
      | some image => [image]
      | none => [code]

def upperChar (char : Char) : List Char :=
  (upperCodes char.toNat).map Char.ofNat

def upper (text : String) : String :=
  String.ofList (text.toList.flatMap upperChar)

@[simp] theorem toList_upper (text : String) :
    (upper text).toList = text.toList.flatMap upperChar := by
  simp [upper]

end JsonSql.Text
