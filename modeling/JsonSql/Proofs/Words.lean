import Mathlib.Data.List.Chain
import Mathlib.Data.List.TakeWhile
import JsonSql.Text.Blank

/-!
# Words between blanks

A blank divides the words of a text from one another, and that is all blanks do: words
are the same with more blanks around them, and words put together with single spaces
are read back.  A text put together in that way is tidy.
-/

namespace JsonSql.Text

theorem cut_of_all_not {separator : Char → Bool} {chars : List Char}
    (none : ∀ char ∈ chars, separator char = false) : cut separator chars = [chars] := by
  induction chars with
  | nil => rfl
  | cons char chars ih =>
      obtain ⟨here, later⟩ := List.forall_mem_cons.mp none
      rw [cut, here, ih later]
      rfl

theorem of_mem_cut {separator : Char → Bool} {chars piece : List Char}
    (member : piece ∈ cut separator chars) :
    ∀ char ∈ piece, separator char = false ∧ char ∈ chars := by
  induction chars generalizing piece with
  | nil =>
      obtain rfl : piece = [] := by simpa [cut] using member
      simp
  | cons char chars ih =>
      have later : ∀ piece ∈ cut separator chars, ∀ other ∈ piece,
          separator other = false ∧ other ∈ char :: chars := fun piece there other inPiece =>
        (ih there other inPiece).imp_right (List.mem_cons_of_mem char)
      obtain ⟨first, pieces, shape⟩ :=
        List.exists_cons_of_ne_nil (cut_ne_nil separator chars)
      rw [shape] at later
      rw [cut, shape] at member
      cases divides : separator char with
      | true =>
          rw [divides] at member
          rcases List.mem_cons.mp member with rfl | there
          · simp
          · exact later piece there
      | false =>
          rw [divides] at member
          rcases List.mem_cons.mp member with rfl | there
          · exact List.forall_mem_cons.mpr
              ⟨⟨divides, List.mem_cons_self⟩, later first List.mem_cons_self⟩
          · exact later piece (List.mem_cons_of_mem _ there)

structure IsWord (chars : List Char) : Prop where
  filled : chars ≠ []
  noBlank : ∀ char ∈ chars, isBlank char = false

theorem isWord_of_any {chars : List Char} (filled : chars ≠ [])
    (noBlank : chars.any isBlank = false) : IsWord chars := by
  refine ⟨filled, fun char member => ?_⟩
  exact Bool.eq_false_iff.mpr (List.any_eq_false.mp noBlank char member)

theorem isWord_of_mem_words {chars word : List Char} (member : word ∈ words chars) :
    IsWord word := by
  obtain ⟨inCut, filled⟩ := List.mem_filter.mp member
  exact ⟨by simpa using filled, fun char inWord => (of_mem_cut inCut char inWord).1⟩

theorem mem_of_mem_words {chars word : List Char} (member : word ∈ words chars)
    {char : Char} (inWord : char ∈ word) : char ∈ chars :=
  (of_mem_cut (List.mem_filter.mp member).1 char inWord).2

theorem IsWord.words_eq {word : List Char} (isWord : IsWord word) : words word = [word] := by
  rw [words, cut_of_all_not isWord.noBlank]
  simp [isWord.filled]

theorem words_append_blank {blank : Char} (isBlank : isBlank blank = true)
    (before after : List Char) :
    words (before ++ blank :: after) = words before ++ words after := by
  rw [words, cut_append_cons isBlank, List.filter_append, ← words, ← words]

theorem words_cons_blank {blank : Char} (isBlank : isBlank blank = true)
    (chars : List Char) : words (blank :: chars) = words chars :=
  words_append_blank isBlank [] chars

theorem words_eq_nil_of_blank {chars : List Char}
    (blank : ∀ char ∈ chars, isBlank char = true) : words chars = [] := by
  induction chars with
  | nil => rfl
  | cons char chars ih =>
      obtain ⟨here, later⟩ := List.forall_mem_cons.mp blank
      rw [words_cons_blank here, ih later]

theorem words_blank_append {blanks : List Char}
    (blank : ∀ char ∈ blanks, isBlank char = true) (chars : List Char) :
    words (blanks ++ chars) = words chars := by
  induction blanks with
  | nil => rfl
  | cons char blanks ih =>
      obtain ⟨here, later⟩ := List.forall_mem_cons.mp blank
      rw [List.cons_append, words_cons_blank here, ih later]

theorem words_append_blanks {blanks : List Char}
    (blank : ∀ char ∈ blanks, isBlank char = true) (chars : List Char) :
    words (chars ++ blanks) = words chars := by
  cases blanks with
  | nil => rw [List.append_nil]
  | cons char blanks =>
      obtain ⟨here, later⟩ := List.forall_mem_cons.mp blank
      rw [words_append_blank here, words_eq_nil_of_blank later, List.append_nil]

theorem words_joined {pieces : List (List Char)} (areWords : ∀ piece ∈ pieces, IsWord piece) :
    words ([' '].intercalate pieces) = pieces := by
  induction pieces with
  | nil => rfl
  | cons first rest ih =>
      obtain ⟨isWord, later⟩ := List.forall_mem_cons.mp areWords
      cases rest with
      | nil => rw [List.intercalate_singleton, isWord.words_eq]
      | cons second rest =>
          rw [List.intercalate_cons_cons, List.append_assoc, List.singleton_append,
            words_append_blank (by decide), isWord.words_eq, ih later]
          rfl

theorem mem_joined {char : Char} {pieces : List (List Char)}
    (member : char ∈ [' '].intercalate pieces) :
    char = ' ' ∨ ∃ piece ∈ pieces, char ∈ piece := by
  induction pieces with
  | nil => cases member
  | cons first rest ih =>
      cases rest with
      | nil => exact .inr ⟨first, by simp, by simpa using member⟩
      | cons second rest =>
          rw [List.intercalate_cons_cons, List.append_assoc, List.mem_append,
            List.singleton_append, List.mem_cons] at member
          rcases member with inFirst | space | later
          · exact .inr ⟨first, by simp, inFirst⟩
          · exact .inl space
          · exact (ih later).imp_right fun ⟨piece, there, inPiece⟩ =>
              ⟨piece, List.mem_cons_of_mem _ there, inPiece⟩

theorem toList_squeeze (text : String) :
    (squeeze text).toList = [' '].intercalate (words text.toList) := by
  simp [squeeze]

theorem squeeze_congr {left right : String}
    (same : words left.toList = words right.toList) : squeeze left = squeeze right := by
  rw [squeeze, squeeze, same]

theorem squeeze_joined {text : String} {pieces : List (List Char)}
    (areWords : ∀ piece ∈ pieces, IsWord piece)
    (joined : text.toList = [' '].intercalate pieces) : squeeze text = text := by
  rw [← String.toList_inj, toList_squeeze, joined, words_joined areWords]

/-! ## Trimmed texts -/

theorem trimStart_spec (chars : List Char) :
    ∃ blanks, chars = blanks ++ trimStart chars ∧
      ∀ char ∈ blanks, isBlank char = true :=
  ⟨chars.takeWhile isBlank, List.takeWhile_append_dropWhile.symm,
    fun _ => List.mem_takeWhile_imp⟩

theorem trim_spec (chars : List Char) :
    ∃ blanks, trimStart chars = trim chars ++ blanks ∧
      ∀ char ∈ blanks, isBlank char = true := by
  obtain ⟨blanks, shape, blank⟩ := trimStart_spec (trimStart chars).reverse
  refine ⟨blanks.reverse, ?_, by simpa using blank⟩
  rw [trim, ← List.reverse_append, ← shape, List.reverse_reverse]

theorem words_trim (chars : List Char) : words (trim chars) = words chars := by
  obtain ⟨leading, atStart, blankStart⟩ := trimStart_spec chars
  obtain ⟨trailing, atEnd, blankEnd⟩ := trim_spec chars
  rw [← words_append_blanks blankEnd, ← atEnd, ← words_blank_append blankStart, ← atStart]

theorem isBlank_head_trimStart {char : Char} {chars rest : List Char}
    (shape : trimStart chars = char :: rest) : isBlank char = false := by
  have first := List.head?_dropWhile_not isBlank chars
  rw [← trimStart, shape] at first
  exact first

theorem isBlank_head_trim {char : Char} {chars rest : List Char}
    (shape : trim chars = char :: rest) : isBlank char = false := by
  obtain ⟨blanks, atEnd, -⟩ := trim_spec chars
  rw [shape, List.cons_append] at atEnd
  exact isBlank_head_trimStart atEnd

theorem splitAtBlank_trim {chars first : List Char} {rest : List (List Char)}
    (shape : words chars = first :: rest) :
    (splitAtBlank (trim chars)).1 = first ∧
      words (splitAtBlank (trim chars)).2 = rest := by
  rw [← words_trim] at shape
  generalize same : trim chars = trimmed at shape
  have parts : trimmed.takeWhile (fun char => !isBlank char) ++
      trimmed.dropWhile (fun char => !isBlank char) = trimmed :=
    List.takeWhile_append_dropWhile
  have isWord : IsWord (trimmed.takeWhile fun char => !isBlank char) := by
    constructor
    · cases trimmed with
      | nil => simp [words, cut] at shape
      | cons char trimmed => simp [isBlank_head_trim same]
    · intro char member
      simpa using List.mem_takeWhile_imp member
  unfold splitAtBlank
  cases behind : trimmed.dropWhile (fun char => !isBlank char) with
  | nil =>
      rw [behind, List.append_nil] at parts
      rw [← parts, isWord.words_eq] at shape
      obtain ⟨rfl, rfl⟩ := List.cons.inj shape
      exact ⟨rfl, rfl⟩
  | cons blank behindBlank =>
      have isBlank : isBlank blank = true := by
        have first := List.head?_dropWhile_not (fun char => !isBlank char) trimmed
        rw [behind] at first
        simpa using first
      rw [behind] at parts
      rw [← parts, words_append_blank isBlank, isWord.words_eq] at shape
      obtain ⟨rfl, rfl⟩ := List.cons.inj shape
      exact ⟨rfl, rfl⟩

/-- A text with no blank before it or behind it and no two blanks side by side. -/
structure IsTidy (chars : List Char) : Prop where
  filled : chars ≠ []
  starts : ∀ char ∈ chars.head?, isBlank char = false
  ends : ∀ char ∈ chars.getLast?, isBlank char = false
  single : chars.IsChain fun left right => isBlank left = false ∨ isBlank right = false

theorem IsWord.isTidy {word : List Char} (isWord : IsWord word) : IsTidy word where
  filled := isWord.filled
  starts char first := isWord.noBlank char (List.mem_of_mem_head? first)
  ends char last := isWord.noBlank char (List.mem_of_mem_getLast? last)
  single := by
    have apart : word.Pairwise fun left right =>
        isBlank left = false ∨ isBlank right = false :=
      List.pairwise_of_forall_mem_list fun left inWord _ _ =>
        .inl (isWord.noBlank left inWord)
    exact apart.isChain

theorem IsTidy.after_word {word chars : List Char} (isWord : IsWord word)
    (tidy : IsTidy chars) : IsTidy (word ++ ' ' :: chars) where
  filled := by simp
  starts char first := by
    rw [List.head?_append_of_ne_nil _ isWord.filled] at first
    exact isWord.isTidy.starts char first
  ends char last := by
    rw [List.append_cons, List.getLast?_append_of_ne_nil _ tidy.filled] at last
    exact tidy.ends char last
  single := by
    refine List.isChain_append.mpr ⟨isWord.isTidy.single, ?_, ?_⟩
    · exact List.isChain_cons.mpr ⟨fun char first => .inr (tidy.starts char first), tidy.single⟩
    · intro last isLast _ _
      exact .inl (isWord.isTidy.ends last isLast)

theorem isTidy_joined {pieces : List (List Char)} (filled : pieces ≠ [])
    (areWords : ∀ piece ∈ pieces, IsWord piece) : IsTidy ([' '].intercalate pieces) := by
  induction pieces with
  | nil => exact absurd rfl filled
  | cons first rest ih =>
      obtain ⟨isWord, later⟩ := List.forall_mem_cons.mp areWords
      cases rest with
      | nil => simpa using isWord.isTidy
      | cons second rest =>
          rw [List.intercalate_cons_cons, List.append_assoc, List.singleton_append]
          exact .after_word isWord (ih (by simp) later)

end JsonSql.Text
