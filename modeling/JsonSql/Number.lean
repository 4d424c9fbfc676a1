import JsonSql.Number.Shortest

/-!
# Numbers

A number is an exact integer or a finite double, and the two never meet: `1`
and `1.0` are different numbers with different texts.  A double is written with
its shortest digits, in plain notation with a fraction while the exponent of
its leading digit lies in `plainExponents`, otherwise in scientific notation
with an explicit sign.
-/

namespace JsonSql

/-- A double is given by its bits, so that the two zeros stay apart. -/
inductive Number where
  | integer (value : Int)
  | double (bits : UInt64)
  deriving DecidableEq, Repr

namespace Number

def plainExponents : Int × Int := (-5, 15)

def zeros (count : Nat) : List Char := List.replicate count '0'

def stripZeros (digits : List Char) : List Char :=
  (digits.reverse.dropWhile (· == '0')).reverse

/-- `lead` is the exponent of the first digit. -/
def plain (digits : List Char) (lead : Int) : List Char :=
  if lead < 0 then
    ['0', '.'] ++ zeros (-lead - 1).toNat ++ digits
  else
    let whole := lead.toNat + 1
    let fraction := if digits.length ≤ whole then ['0'] else digits.drop whole
    digits.take whole ++ zeros (whole - digits.length) ++ '.' :: fraction

def scientific (digits : List Char) (lead : Int) : List Char :=
  let fraction := if digits.length ≤ 1 then [] else '.' :: digits.drop 1
  let sign := if lead < 0 then '-' else '+'
  digits.take 1 ++ fraction ++ 'e' :: sign :: Nat.toDigits 10 lead.natAbs

def Decimal.text (decimal : Decimal) : List Char :=
  let digits := Nat.toDigits 10 decimal.coefficient
  let lead := decimal.exponent + digits.length - 1
  if plainExponents.1 ≤ lead ∧ lead ≤ plainExponents.2 then
    plain (stripZeros digits) lead
  else
    scientific (stripZeros digits) lead

def Binary.text (binary : Binary) : List Char :=
  let magnitude :=
    if binary.significand = 0 then ['0', '.', '0'] else binary.shortest.text
  if binary.negative then '-' :: magnitude else magnitude

def integerText : Int → List Char
  | .ofNat magnitude => Nat.toDigits 10 magnitude
  | .negSucc magnitude => '-' :: Nat.toDigits 10 (magnitude + 1)

def text : Number → String
  | .integer value => String.ofList (integerText value)
  | .double bits => String.ofList (Binary.ofBits bits).text

example : (double 0x8000000000000000).text = "-0.0" := by decide

example : (double 0x430C6BF526340000).text = "1000000000000000.0" := by decide

example : (double 0x4341C37937E08000).text = "1e+16" := by decide

example : (double 0x3EE4F8B588E368F1).text = "0.00001" := by decide

example : (double 0x3EB0C6F7A0B5ED8D).text = "1e-6" := by decide

example : (double 0x7FEFFFFFFFFFFFFF).text = "1.7976931348623157e+308" := by
  decide +kernel

end Number

end JsonSql
