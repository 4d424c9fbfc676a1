/-!
# The shortest decimal of a double

A finite double stands for every real that rounds to it.  `shortest` looks at
the decimal grids from coarse to fine and stops at the first one with a point
among these reals; of two such points it takes the nearer one, and the even one
of two equally near.  All of it is exact arithmetic on naturals.
-/

namespace JsonSql.Number

/-- `significand * 2 ^ exponent`; `lowest` tells that the next smaller double is
only half as far away as the next larger one. -/
structure Binary where
  negative : Bool
  significand : Nat
  exponent : Int
  lowest : Bool
  deriving DecidableEq, Repr

def fractions : Nat := Nat.pow 2 52

def Binary.ofBits (bits : UInt64) : Binary :=
  let fraction := bits.toNat % fractions
  let biased := bits.toNat / fractions % 2048
  { negative := 2048 * fractions ≤ bits.toNat
    significand := if biased = 0 then fraction else fractions + fraction
    exponent := if biased = 0 then -1074 else Int.ofNat biased - 1075
    lowest := fraction = 0 && 1 < biased }

/-- The fractions from `low / scale` to `high / scale` around `center / scale`. -/
structure Neighbourhood where
  low : Nat
  center : Nat
  high : Nat
  scale : Nat
  closed : Bool
  deriving DecidableEq, Repr

def Neighbourhood.times (hood : Neighbourhood) (factor : Nat) : Neighbourhood :=
  { hood with
    low := hood.low * factor
    center := hood.center * factor
    high := hood.high * factor }

def Neighbourhood.shift (hood : Neighbourhood) (base : Nat) (exponent : Int) :
    Neighbourhood :=
  if 0 ≤ exponent then
    { hood with scale := hood.scale * Nat.pow base exponent.toNat }
  else
    hood.times (Nat.pow base (-exponent).toNat)

/-- A double owns the reals up to half way to its neighbours, and the half way
points themselves if its significand is even. -/
def Binary.neighbourhood (binary : Binary) : Neighbourhood :=
  let quarters : Neighbourhood :=
    { low := 4 * binary.significand - (if binary.lowest then 1 else 2)
      center := 4 * binary.significand
      high := 4 * binary.significand + 2
      scale := 1
      closed := binary.significand % 2 = 0 }
  quarters.shift 2 (2 - binary.exponent)

def Neighbourhood.contains (hood : Neighbourhood) (point : Nat) : Bool :=
  if hood.closed then
    hood.low ≤ point * hood.scale && point * hood.scale ≤ hood.high
  else
    hood.low < point * hood.scale && point * hood.scale < hood.high

def Neighbourhood.nearest? (hood : Neighbourhood) : Option Nat :=
  let below := hood.center / hood.scale
  let rest := 2 * (hood.center % hood.scale)
  match hood.contains below, hood.contains (below + 1) with
  | false, false => none
  | true, false => some below
  | false, true => some (below + 1)
  | true, true =>
      if rest < hood.scale ∨ (rest = hood.scale ∧ below % 2 = 0) then some below
      else some (below + 1)

def digitCount (number : Nat) : Nat := (Nat.toDigits 10 number).length

def Neighbourhood.magnitude (hood : Neighbourhood) : Int :=
  if hood.scale ≤ hood.center then
    (digitCount (hood.center / hood.scale) : Int) - 1
  else
    -(digitCount ((hood.scale - 1) / hood.center) : Int)

structure Decimal where
  coefficient : Nat
  exponent : Int
  deriving DecidableEq, Repr

/-- Tries grids of one more digit each; `digits` bounds their number. -/
def Neighbourhood.refine (hood : Neighbourhood) (exponent : Int) :
    (digits : Nat) → Decimal
  | 0 => ⟨hood.center / hood.scale, exponent⟩
  | digits + 1 =>
      match (hood.shift 10 exponent).nearest? with
      | some coefficient => ⟨coefficient, exponent⟩
      | none => hood.refine (exponent - 1) digits

def Binary.shortest (binary : Binary) : Decimal :=
  binary.neighbourhood.refine binary.neighbourhood.magnitude 17

end JsonSql.Number
