/-!
# Blank characters

The characters with the White_Space property, and the ways a text is taken
apart at them: trimming, cutting at every separator and listing the words
between blanks.
-/

namespace JsonSql.Text

def blankRanges : List (Nat × Nat) :=
  [ (0x09, 0x0D), (0x20, 0x20), (0x85, 0x85), (0xA0, 0xA0), (0x1680, 0x1680),
    (0x2000, 0x200A), (0x2028, 0x2029), (0x202F, 0x202F), (0x205F, 0x205F),
    (0x3000, 0x3000) ]

def isBlank (char : Char) : Bool :=
  blankRanges.any fun range => range.1 ≤ char.toNat && char.toNat ≤ range.2

def trimStart (chars : List Char) : List Char :=
  chars.dropWhile isBlank

def trim (chars : List Char) : List Char :=
  (trimStart (trimStart chars).reverse).reverse

/-- The pieces between the characters that satisfy `separator`; there is always
one piece more than there are separators. -/
def cut (separator : Char → Bool) : List Char → List (List Char)
  | [] => [[]]
  | char :: chars =>
      if separator char then
        [] :: cut separator chars
      else
        match cut separator chars with
        | [] => [[char]]
        | piece :: pieces => (char :: piece) :: pieces

theorem cut_ne_nil (separator : Char → Bool) (chars : List Char) :
    cut separator chars ≠ [] := by
  cases chars with
  | nil => simp [cut]
  | cons char chars =>
      rw [cut]
      split
      · simp
      · split <;> simp

theorem cut_append_cons {separator : Char → Bool} {middle : Char}
    (separates : separator middle = true) (before after : List Char) :
    cut separator (before ++ middle :: after) =
      cut separator before ++ cut separator after := by
  induction before with
  | nil => simp [cut, separates]
  | cons char before ih =>
      rw [List.cons_append, cut, cut, ih]
      split
      · rfl
      · cases pieces : cut separator before with
        | nil => exact absurd pieces (cut_ne_nil separator before)
        | cons piece pieces => rfl

def splitAtBlank (chars : List Char) : List Char × List Char :=
  (chars.takeWhile (fun char => !isBlank char),
    (chars.dropWhile (fun char => !isBlank char)).drop 1)

def words (chars : List Char) : List (List Char) :=
  (cut isBlank chars).filter fun piece => !piece.isEmpty

def squeeze (text : String) : String :=
  " ".intercalate ((words text.toList).map String.ofList)

end JsonSql.Text
