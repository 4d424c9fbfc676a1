import Mathlib.Data.List.Basic
import JsonSql.Proofs.LetterCase
import JsonSql.Text.Blank

/-!
# Upper-case forms

Upper-casing is done once: a code that it puts in the place of another one has no
upper-case form but itself.  The table of letters is checked run by run against every
other run, since its codes are too many to be looked up one by one.  No blank and no
mark of ASCII comes from another character, and no character vanishes.
-/

namespace JsonSql.Text

namespace CaseRun

def lastUpper (run : CaseRun) : Nat := run.upper + (run.last - run.first)

/-- The upper-case forms of one run meet no letter of another: they lie before it or
behind it, or fall between its letters. -/
def misses (run other : CaseRun) : Bool :=
  Nat.blt run.lastUpper other.first || Nat.blt other.last run.upper ||
    (other.step == 2 && (run.step == 2 || run.first == run.last) &&
      (run.upper + other.first) % 2 == 1)

/-- The upper-case forms of a run are code points behind the marks of ASCII, and there is
neither a blank nor a letter with a longer form among them. -/
def isClear (run : CaseRun) : Bool :=
  Nat.ble 0x41 run.upper &&
    (Nat.blt run.lastUpper 0xD800 ||
      Nat.blt 0xDFFF run.upper && Nat.blt run.lastUpper 0x110000) &&
    (upperExpansions.all fun entry =>
      Nat.blt entry.1 run.upper || Nat.blt run.lastUpper entry.1) &&
    blankRanges.all fun range =>
      Nat.blt run.lastUpper range.1 || Nat.blt range.2 run.upper

theorem image?_eq_some_iff {run : CaseRun} {code image : Nat} :
    run.image? code = some image ↔
      (run.first ≤ code ∧ code ≤ run.last ∧ (code - run.first) % run.step = 0) ∧
        run.upper + (code - run.first) = image := by
  rw [image?]
  split <;> simp_all

theorem image?_of_misses {run other : CaseRun} (misses : run.misses other = true)
    {code image : Nat} (found : run.image? code = some image) :
    other.image? image = none := by
  obtain ⟨⟨least, greatest, onStep⟩, rfl⟩ := image?_eq_some_iff.mp found
  simp only [CaseRun.misses, lastUpper, Bool.or_eq_true, Bool.and_eq_true, Nat.blt_eq,
    beq_iff_eq] at misses
  rw [image?, if_neg]
  rintro ⟨leastOther, greatestOther, onStepOther⟩
  rcases misses with (before | behind) | ⟨⟨stepOther, single⟩, between⟩
  · omega
  · omega
  · -- Both go by steps of two, and one begins at an even code, the other at an odd one.
    rw [stepOther] at onStepOther
    rcases single with step | one
    · rw [step] at onStep
      omega
    · omega

end CaseRun

theorem misses_of_mem {run other : CaseRun} (inRuns : run ∈ upperRuns)
    (otherInRuns : other ∈ upperRuns) : run.misses other = true := by
  have all : (upperRuns.all fun run => upperRuns.all run.misses) = true := by
    decide +kernel
  exact List.all_eq_true.mp (List.all_eq_true.mp all run inRuns) other otherInRuns

structure IsUpperCode (code : Nat) : Prop where
  fixed : upperCodes code = [code]
  noMark : 0x41 ≤ code
  valid : code.isValidChar
  notBlank : ∀ range ∈ blankRanges, code < range.1 ∨ range.2 < code

theorem isUpperCode_iff {code : Nat} :
    IsUpperCode code ↔ upperCodes code = [code] ∧ 0x41 ≤ code ∧ code.isValidChar ∧
      ∀ range ∈ blankRanges, code < range.1 ∨ range.2 < code :=
  ⟨fun form => ⟨form.fixed, form.noMark, form.valid, form.notBlank⟩,
    fun ⟨fixed, noMark, valid, notBlank⟩ => ⟨fixed, noMark, valid, notBlank⟩⟩

instance (code : Nat) : Decidable (IsUpperCode code) :=
  decidable_of_iff' _ isUpperCode_iff

theorem isUpperCode_of_expansion {code : Nat} {codes : List Nat}
    (expanded : upperExpansions.lookup code = some codes) :
    codes ≠ [] ∧ ∀ form ∈ codes, IsUpperCode form := by
  have all : ∀ entry ∈ upperExpansions,
      entry.2 ≠ [] ∧ ∀ form ∈ entry.2, IsUpperCode form := by decide +kernel
  obtain ⟨before, after, table, -⟩ := List.lookup_eq_some_iff.mp expanded
  have member : (code, codes) ∈ upperExpansions := by simp [table]
  exact all _ member

theorem isUpperCode_of_image {run : CaseRun} (inRuns : run ∈ upperRuns) {code image : Nat}
    (found : run.image? code = some image) : IsUpperCode image := by
  have all : upperRuns.all CaseRun.isClear = true := by decide +kernel
  have clear := List.all_eq_true.mp all run inRuns
  simp only [CaseRun.isClear, CaseRun.lastUpper, Bool.and_eq_true, Bool.or_eq_true,
    List.all_eq_true, Nat.ble_eq, Nat.blt_eq] at clear
  obtain ⟨⟨⟨noMark, valid⟩, single⟩, notBlank⟩ := clear
  obtain ⟨⟨least, greatest, -⟩, inside⟩ := CaseRun.image?_eq_some_iff.mp found
  have noRun : upperRuns.findSome? (fun run => run.image? image) = none := by
    rw [List.findSome?_eq_none_iff]
    intro other otherInRuns
    exact CaseRun.image?_of_misses (misses_of_mem inRuns otherInRuns) found
  have noExpansion : upperExpansions.lookup image = none := by
    rw [List.lookup_eq_none_iff]
    intro entry member
    have apart := single entry member
    exact bne_iff_ne.mpr (by omega)
  refine ⟨?_, by omega, ?_, ?_⟩
  · rw [upperCodes, noExpansion, noRun]
  · rw [Nat.isValidChar]
    omega
  · intro range member
    have apart := notBlank range member
    omega

theorem upperCodes_cases (code : Nat) :
    upperCodes code = [code] ∨
      upperCodes code ≠ [] ∧ ∀ form ∈ upperCodes code, IsUpperCode form := by
  unfold upperCodes
  cases expanded : upperExpansions.lookup code with
  | some codes => exact .inr (isUpperCode_of_expansion expanded)
  | none =>
      cases found : upperRuns.findSome? (fun run => run.image? code) with
      | none => exact .inl rfl
      | some image =>
          obtain ⟨run, inRuns, isImage⟩ := List.exists_of_findSome?_eq_some found
          exact .inr ⟨by simp, by simpa using isUpperCode_of_image inRuns isImage⟩

theorem upperChar_cases (char : Char) :
    upperChar char = [char] ∨
      upperChar char ≠ [] ∧ ∀ form ∈ upperChar char, IsUpperCode form.toNat := by
  unfold upperChar
  rcases upperCodes_cases char.toNat with same | ⟨filled, forms⟩
  · left
    rw [same, List.map_singleton, Char.ofNat_toNat]
  · refine .inr ⟨by simpa using filled, ?_⟩
    intro form member
    obtain ⟨code, inCodes, rfl⟩ := List.mem_map.mp member
    have isForm := forms code inCodes
    have same : Char.ofNat code = Char.ofNatAux code isForm.valid := dif_pos isForm.valid
    rw [same]
    exact isForm

theorem upperChar_ne_nil (char : Char) : upperChar char ≠ [] := by
  rcases upperChar_cases char with same | ⟨filled, -⟩
  · simp [same]
  · exact filled

theorem upperChar_of_mem {char form : Char} (member : form ∈ upperChar char) :
    upperChar form = [form] := by
  rcases upperChar_cases char with same | ⟨-, forms⟩
  · obtain rfl : form = char := by simpa [same] using member
    exact same
  · rw [upperChar, (forms form member).fixed, List.map_singleton, Char.ofNat_toNat]

theorem IsUpperCode.isBlank_eq_false {char : Char} (form : IsUpperCode char.toNat) :
    isBlank char = false := by
  rw [isBlank, List.any_eq_false]
  intro range member
  have apart := form.notBlank range member
  rw [Bool.and_eq_true, decide_eq_true_eq, decide_eq_true_eq]
  omega

/-- No blank and no mark before the letters of ASCII comes from another character. -/
theorem eq_of_mem_upperChar {char form : Char} (member : form ∈ upperChar char)
    (low : isBlank form = true ∨ form.toNat < 0x41) : form = char := by
  rcases upperChar_cases char with same | ⟨-, forms⟩
  · simpa [same] using member
  · have isForm := forms form member
    have noMark := isForm.noMark
    rcases low with blank | mark
    · rw [isForm.isBlank_eq_false] at blank
      cases blank
    · omega

theorem flatMap_upperChar_flatMap (chars : List Char) :
    (chars.flatMap upperChar).flatMap upperChar = chars.flatMap upperChar := by
  have fixed : ∀ form ∈ chars.flatMap upperChar, upperChar form = [form] := by
    intro form member
    obtain ⟨char, -, inForms⟩ := List.mem_flatMap.mp member
    exact upperChar_of_mem inForms
  rw [List.flatMap_congr fixed, List.flatMap_singleton']

theorem upper_upper (text : String) : upper (upper text) = upper text := by
  rw [← String.toList_inj, toList_upper, toList_upper, flatMap_upperChar_flatMap]

end JsonSql.Text
