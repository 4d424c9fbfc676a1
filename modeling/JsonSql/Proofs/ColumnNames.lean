import JsonSql.Identifier

/-!
# Column names

The grammar of column names, and that checking a name accepts exactly what the
grammar allows.  A name between quotes is read back by one way only.
-/

namespace JsonSql.Identifier

/-- A bare identifier, or the quoted form of a text that is not empty. -/
inductive IsColumnName : String → Prop
  | bare {first : Char} {rest : List Char} : startsBare first = true →
      rest.all continuesBare = true → IsColumnName (String.ofList (first :: rest))
  | quoted {name : String} : name ≠ "" → IsColumnName (quote name)

theorem eq_doubleQuotes_of_untilClosingQuote? {chars name : List Char}
    (closed : untilClosingQuote? chars = some name) :
    chars = doubleQuotes name ++ ['"'] := by
  fun_induction untilClosingQuote? chars generalizing name with
  | case1 => cases closed
  | case2 =>
      obtain rfl := Option.some.inj closed
      rfl
  | case3 chars ih =>
      obtain ⟨inner, found, rfl⟩ := Option.map_eq_some_iff.mp closed
      simp [doubleQuotes, ih found]
  | case4 => cases closed
  | case5 char chars _ _ other ih =>
      obtain ⟨inner, found, rfl⟩ := Option.map_eq_some_iff.mp closed
      simp [doubleQuotes, other, ih found]

theorem unquote?_eq_some_iff {text name : String} :
    unquote? text = some name ↔ text = quote name := by
  constructor
  · intro read
    unfold unquote? at read
    split at read
    · rename_i chars opened
      obtain ⟨inner, closed, rfl⟩ := Option.map_eq_some_iff.mp read
      rw [← String.toList_inj, opened, eq_doubleQuotes_of_untilClosingQuote? closed]
      simp [quote]
    · cases read
  · rintro rfl
    exact unquote?_quote name

theorem isBare_eq_true_iff (name : String) :
    isBare name = true ↔ ∃ first rest, name = String.ofList (first :: rest) ∧
      startsBare first = true ∧ rest.all continuesBare = true := by
  unfold isBare
  constructor
  · intro bare
    split at bare
    · cases bare
    · rename_i first rest chars
      obtain ⟨starts, continues⟩ := Bool.and_eq_true _ _ |>.mp bare
      refine ⟨first, rest, ?_, starts, continues⟩
      rw [← chars, String.ofList_toList]
  · rintro ⟨first, rest, rfl, starts, continues⟩
    simp [starts, continues]

theorem isColumnName_eq_true_iff (field : String) :
    isColumnName field = true ↔ IsColumnName field := by
  rw [isColumnName, Bool.or_eq_true, isBare_eq_true_iff, Option.any_eq_true]
  constructor
  · rintro (⟨first, rest, rfl, starts, continues⟩ | ⟨name, read, filled⟩)
    · exact .bare starts continues
    · obtain rfl := unquote?_eq_some_iff.mp read
      exact .quoted (by simpa using filled)
  · rintro (⟨starts, continues⟩ | filled)
    · exact .inl ⟨_, _, rfl, starts, continues⟩
    · exact .inr ⟨_, unquote?_quote _, by simpa using filled⟩

theorem startsBare_bounds {char : Char} (starts : startsBare char = true) :
    0x41 ≤ char.toNat ∧ char.toNat ≤ 0x7A := by
  obtain letter | rfl : char.isAlpha = true ∨ char = '_' := by
    simpa [startsBare] using starts
  · rcases (Bool.or_eq_true _ _).mp letter with capital | small
    · obtain ⟨lower, upper⟩ : _ ∧ _ := of_decide_eq_true capital
      exact ⟨lower, Nat.le_trans upper (by decide)⟩
    · obtain ⟨lower, upper⟩ := (Bool.and_eq_true _ _).mp small
      have lower : 'a'.toNat ≤ char.toNat := of_decide_eq_true lower
      exact ⟨Nat.le_trans (by decide) lower, of_decide_eq_true upper⟩
  · decide

theorem startsBare_not_blank {char : Char} (starts : startsBare char = true) :
    Text.isBlank char = false := by
  obtain ⟨lower, upper⟩ := startsBare_bounds starts
  simp only [Text.isBlank, Text.blankRanges, List.any_cons, List.any_nil, Bool.or_false,
    Bool.or_eq_false_iff, Bool.and_eq_false_iff, decide_eq_false_iff_not]
  omega

theorem IsColumnName.not_blank {field : String} (named : IsColumnName field) :
    field.toList.all Text.isBlank = false := by
  cases named with
  | bare starts _ => simp [startsBare_not_blank starts]
  | quoted _ =>
      have quoteMark : Text.isBlank '"' = false := by decide
      simp [quote, quoteMark]

theorem checkColumnName_cases (field : String) :
    (IsColumnName field ∧ checkColumnName field = .ok ()) ∨
      (¬ IsColumnName field ∧ ∃ cause, checkColumnName field = .error cause) := by
  by_cases named : IsColumnName field
  · refine .inl ⟨named, ?_⟩
    rw [checkColumnName, if_neg (by simp [named.not_blank]),
      if_pos ((isColumnName_eq_true_iff field).mpr named)]
  · have refused : ¬ isColumnName field = true :=
      fun accepted => named ((isColumnName_eq_true_iff field).mp accepted)
    refine .inr ⟨named, ?_⟩
    rw [checkColumnName, if_neg refused]
    split
    · exact ⟨_, rfl⟩
    · exact ⟨_, rfl⟩

end JsonSql.Identifier
