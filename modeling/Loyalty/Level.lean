import Loyalty.Text.Decimal

/-!
# Levels

Experience earns levels on a triangular curve: level `n` takes `base * n * (n + 1) / 2` experience,
cut off at the largest 64-bit number before it is halved. The level of some experience is the
highest one whose threshold it reaches.
-/

namespace Loyalty

/-- A triangular curve, fixed by the experience that the first level takes. -/
structure LevelCurve where
  base : Int
  one_le_base : 1 ≤ base
  base_le : base ≤ 2147483647

namespace LevelCurve

def ofBase (base : Amount) : LevelCurve where
  base := max base.toInt 1
  one_le_base := by omega
  base_le := by have := base.bounds; omega

def standard : LevelCurve := ofBase 100

/-- The product of two numbers, cut off at the largest 64-bit number. -/
def cappedMul (a b : Int) : Int := min (a * b) 9223372036854775807

def threshold (c : LevelCurve) (level : Int) : Int :=
  cappedMul (cappedMul c.base (max level 0)) (max level 0 + 1) / 2

def climb (c : LevelCurve) (experience : Int) : Nat → Nat → Nat
  | 0, level => level
  | steps + 1, level =>
    if c.threshold (level + 1) ≤ experience then c.climb experience steps (level + 1) else level

/-- The highest level reached; a threshold is never below its level, which bounds the climb. -/
def levelFor (c : LevelCurve) (experience : Int) : Nat :=
  c.climb (max experience 0) experience.toNat 0

def sinceLevel (c : LevelCurve) (level experience : Int) : Int := experience - c.threshold level

def toNextLevel (c : LevelCurve) (experience : Int) : Int :=
  c.threshold (c.levelFor experience + 1) - max experience 0

end LevelCurve

end Loyalty
