/-!
# Double-precision numbers

A double is a mantissa below `2 ^ 53` times a power of two from `2 ^ -1074` to `2 ^ 971`, with a
sign that zero has too. Products and quotients are rounded to the nearest double, and a tie goes to
the even mantissa.
-/

namespace Loyalty

/-- The number `mantissa * 2 ^ exponent` with a sign. -/
structure Double where
  negative : Bool
  mantissa : Nat
  exponent : Int
  deriving DecidableEq, Repr, Inhabited

namespace Double

def minExponent : Int := -1074

def maxExponent : Int := 971

def isZero (x : Double) : Bool := x.mantissa == 0

def quotient (x : Double) : Nat × Nat :=
  (x.mantissa * Nat.pow 2 x.exponent.toNat, Nat.pow 2 (-x.exponent).toNat)

/-- The whole number next to `n / d`; a tie goes to the even one. -/
def divideEven (n d : Nat) : Nat :=
  let twice := 2 * (n % d)
  if d < twice ∨ (twice = d ∧ n / d % 2 = 1) then n / d + 1 else n / d

def inUnits (n d : Nat) (exponent : Int) : Nat × Nat :=
  (n * Nat.pow 2 (-exponent).toNat, d * Nat.pow 2 exponent.toNat)

/-- The least exponent at which a mantissa below `2 ^ 53` reaches up to `n / d`. -/
def exponentFor (n d : Nat) : Int :=
  let low := max minExponent ((n.log2 : Int) - d.log2 - 53)
  let units := inUnits n d low
  if units.1 / units.2 < Nat.pow 2 53 then low else low + 1

def ofQuotient (negative : Bool) (n d : Nat) : Double :=
  if n = 0 then ⟨negative, 0, minExponent⟩
  else
    let exponent := exponentFor n d
    let units := inUnits n d exponent
    let mantissa := divideEven units.1 units.2
    if mantissa = Nat.pow 2 53 then ⟨negative, Nat.pow 2 52, exponent + 1⟩
    else ⟨negative, mantissa, exponent⟩

def mul (x y : Double) : Double :=
  ofQuotient (x.negative != y.negative) (x.quotient.1 * y.quotient.1) (x.quotient.2 * y.quotient.2)

def div (x y : Double) : Double :=
  ofQuotient (x.negative != y.negative) (x.quotient.1 * y.quotient.2) (x.quotient.2 * y.quotient.1)

def finite? (x : Double) : Option Double := if x.exponent ≤ maxExponent then some x else none

/-- The nearest whole number; a half goes away from zero. -/
def nearest (x : Double) : Int :=
  let magnitude := (2 * x.quotient.1 + x.quotient.2) / (2 * x.quotient.2)
  if x.negative then -(magnitude : Int) else magnitude

end Double

end Loyalty
