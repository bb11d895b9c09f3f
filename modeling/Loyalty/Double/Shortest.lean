import Loyalty.Double

/-!
# Shortest digits

The fewest decimal digits that denote no other double. The doubles around a number leave it an
interval, which ends halfway to each of them; the coarsest decimal grid with a point in that
interval is taken, and on it the point next to the number.
-/

namespace Loyalty

/-- Which of two points is taken that are equally near. -/
inductive Tie where
  | toEven
  | upward
  deriving DecidableEq, Repr

namespace Double

/-- The magnitude and the ends of its interval, in units of a quarter of `2 ^ exponent`. Below a
power of two the doubles lie closer. -/
def quarters (x : Double) : Nat × Nat × Nat :=
  let gap := if x.mantissa = Nat.pow 2 52 ∧ minExponent < x.exponent then 1 else 2
  (4 * x.mantissa - gap, 4 * x.mantissa, 4 * x.mantissa + 2)

/-- The factors that take a quarter of `2 ^ exponent` to units of `10 ^ place`. -/
def gridScale (x : Double) (place : Int) : Nat × Nat :=
  (Nat.pow 2 (x.exponent - 2).toNat * Nat.pow 10 (-place).toNat,
    Nat.pow 2 (2 - x.exponent).toNat * Nat.pow 10 place.toNat)

/-- The point of a grid that is taken for a number, if one is in its interval. An end belongs to
the interval when the mantissa is even. -/
def gridPoint? (tie : Tie) (x : Double) (place : Int) : Option Nat :=
  let (low, middle, high) := x.quarters
  let (factor, divisor) := x.gridScale place
  let inside (point : Nat) : Bool :=
    if x.mantissa % 2 = 0 then low * factor ≤ point * divisor && point * divisor ≤ high * factor
    else low * factor < point * divisor && point * divisor < high * factor
  let below := middle * factor / divisor
  let twice := 2 * (middle * factor % divisor)
  let upper : Bool :=
    divisor < twice || (twice == divisor && (tie == .upward || below % 2 == 1))
  match inside below, inside (below + 1) with
  | true, true => some (if upper then below + 1 else below)
  | true, false => some below
  | false, true => some (below + 1)
  | false, false => none

def firstPoint (tie : Tie) (x : Double) (place : Int) : Nat → Nat × Int
  | 0 => (0, place)
  | grids + 1 =>
    match x.gridPoint? tie place with
    | some point => (point, place)
    | none => firstPoint tie x (place - 1) grids

def shortest (tie : Tie) (x : Double) : Nat × Int := firstPoint tie x 308 633

end Double

end Loyalty
