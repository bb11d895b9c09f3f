import Loyalty.Double.Shortest
import Loyalty.Text.Decimal

/-!
# Written doubles

A number is written with digits and a power of ten. It is read as the double next to its leading
digits, which is then multiplied or divided by the double next to the power of ten, so that what is
read may be a neighbour of the nearest double.
-/

namespace Loyalty

/-- A number as it is written: `digits * 10 ^ exponent` with a sign. -/
structure NumberLiteral where
  negative : Bool
  digits : Nat
  exponent : Int
  deriving DecidableEq, Repr

namespace NumberLiteral

/-- Drops digits from the end until the others fit into 64 bits. -/
def leading (n : NumberLiteral) : NumberLiteral :=
  if h : n.digits < Nat.pow 2 64 then n
  else leading ⟨n.negative, n.digits / 10, n.exponent + 1⟩
termination_by n.digits
decreasing_by simp only [Nat.pow_eq] at h; omega

end NumberLiteral

namespace Double

def maxPlace : Int := 308

def tenTo (places : Nat) : Double := ofQuotient false (Nat.pow 10 places) 1

def scale? (x : Double) (exponent : Int) : Option Double :=
  if x.isZero then some x
  else if maxPlace < exponent then none
  else if 0 ≤ exponent then (x.mul (tenTo exponent.toNat)).finite?
  else if -maxPlace ≤ exponent then some (x.div (tenTo (-exponent).toNat))
  else scale? (x.div (tenTo maxPlace.toNat)) (exponent + maxPlace)
termination_by (-exponent).toNat
decreasing_by simp only [maxPlace] at *; omega

def ofLiteral? (n : NumberLiteral) : Option Double :=
  (ofQuotient n.negative n.leading.digits 1).scale? n.leading.exponent

/-- Writes the shortest digits. A whole number of up to 16 digits gets a zero after the point. -/
def literal (x : Double) : NumberLiteral :=
  if x.isZero then ⟨x.negative, 0, -1⟩
  else
    let (digits, place) := x.shortest .toEven
    if 0 ≤ place ∧ (Text.digits digits).length + place ≤ 16 then
      ⟨x.negative, digits * Nat.pow 10 (place.toNat + 1), -1⟩
    else ⟨x.negative, digits, place⟩

def positional (digits : List Char) (place : Int) : List Char :=
  if 0 ≤ place then digits ++ List.replicate place.toNat '0'
  else
    let places := (-place).toNat
    let padded := List.replicate (places + 1 - digits.length) '0' ++ digits
    padded.take (padded.length - places) ++ '.' :: padded.drop (padded.length - places)

def text (x : Double) : String :=
  let magnitude :=
    if x.isZero then ['0']
    else
      let (digits, place) := x.shortest .upward
      positional (Text.digits digits) place
  String.ofList (if x.negative then '-' :: magnitude else magnitude)

end Double

end Loyalty
