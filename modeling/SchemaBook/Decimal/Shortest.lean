/-!
The shortest decimal digits of a binary number. A number m · 2^q stands for all reals that round to
it; of the decimal grids with 1, 2, … 17 digits the first that has a point in this interval is
taken, and on it the point nearest to the number. All tests are on natural numbers, so they are
exact.
-/

namespace SchemaBook.Decimal

/-- A positive finite binary number: mantissa · 2 ^ exponent. -/
structure Binary where
  mantissa : Nat
  exponent : Int
  deriving DecidableEq, Repr

/-- Decimal digits: digits · 10 ^ exponent. -/
structure Digits where
  digits : Nat
  exponent : Int
  deriving DecidableEq, Repr

namespace Binary

/-- The least mantissa of a number in normal form. -/
def leastNormal : Nat := Nat.pow 2 52

/-- The exponent of the numbers nearest to zero. -/
def leastExponent : Int := -1074

/-- A common scale for quarters of the last binary place and units of a decimal grid: `quarters · a`
and `units · b` compare as `quarters · 2 ^ (exponent - 2)` and `units · 10 ^ place` do. -/
def scale (x : Binary) (place : Int) : Nat × Nat :=
  let binary := x.exponent - 2
  (Nat.pow 2 binary.toNat * Nat.pow 10 (-place).toNat,
    Nat.pow 10 place.toNat * Nat.pow 2 (-binary).toNat)

/-- The quarters of the last place from which, and up to which, a real rounds to the number. The gap
below a power of two is half as wide as the one above. -/
def interval (x : Binary) : Nat × Nat :=
  let below := if x.mantissa = leastNormal ∧ x.exponent ≠ leastExponent then 1 else 2
  (4 * x.mantissa - below, 4 * x.mantissa + 2)

/-- Whether the point of the grid rounds to the number. The ends of the interval do so for an even
mantissa. -/
def covers (x : Binary) (place : Int) (units : Nat) : Bool :=
  let (a, b) := x.scale place
  let (low, high) := x.interval
  if x.mantissa % 2 = 0 then low * a ≤ units * b && units * b ≤ high * a
  else low * a < units * b && units * b < high * a

/-- The greatest point of the grid that is not above the number. -/
def floorUnits (x : Binary) (place : Int) : Nat :=
  let (a, b) := x.scale place
  4 * x.mantissa * a / b

/-- The point of the grid that is nearest to the number among those that round to it. A tie goes to
the even point. -/
def nearest? (x : Binary) (place : Int) : Option Nat :=
  let lower := x.floorUnits place
  let (a, b) := x.scale place
  let twice := 8 * x.mantissa * a
  let middle := (2 * lower + 1) * b
  match x.covers place lower, x.covers place (lower + 1) with
  | true, true =>
    if twice < middle ∨ (twice = middle ∧ lower % 2 = 0) then some lower else some (lower + 1)
  | true, false => some lower
  | false, true => some (lower + 1)
  | false, false => none

/-- A decimal place below that of every binary number's first digit. -/
def farPlace : Int := -400

/-- The place of the first digit of the number. -/
def firstPlace (x : Binary) : Int :=
  farPlace + (Nat.toDigits 10 (x.floorUnits farPlace)).length - 1

/-- The shortest digits that read back as the number. Seventeen always suffice. -/
def shortest (x : Binary) : Digits :=
  let place (count : Nat) : Int := x.firstPlace - (count - 1 : Nat)
  let found := (List.range' 1 17).findSome? fun count =>
    (x.nearest? (place count)).map fun units => (⟨units, place count⟩ : Digits)
  found.getD ⟨x.floorUnits (place 17), place 17⟩

end Binary

end SchemaBook.Decimal
