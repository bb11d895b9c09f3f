import Loyalty.Proofs.Levels
import Mathlib.Algebra.Ring.Int.Parity
import Mathlib.Tactic.Ring

/-!
# The spans of levels

A level spans the experience from its own threshold up to the next one. Every level that an amount
of experience comes to spans the base once for each level up to the next: halving is exact there,
and no threshold is cut off. So experience is split at the threshold of its level into what lies
past it and what is missing for the next level, and neither part is one off.
-/

namespace Loyalty

namespace LevelCurve

variable (c : LevelCurve) {level experience : Int}

/-- The experience that leads through a level, from its threshold to the next one. -/
def span (level : Int) : Int := c.base * (level + 1)

theorem two_mul_threshold (hlevel : 0 ≤ level)
    (hfits : c.base * level * (level + 1) ≤ 9223372036854775807) :
    2 * c.threshold level = c.base * level * (level + 1) := by
  have heven : (2 : Int) ∣ c.base * level * (level + 1) := by
    rw [mul_assoc]
    exact (Int.even_mul_succ_self level).two_dvd.mul_left c.base
  rw [threshold_eq, max_eq_left hlevel, min_eq_left hfits]
  exact Int.mul_ediv_cancel' heven

/-- Past a threshold that an amount reaches, the next one is not cut off either. -/
theorem product_le_of_reached (hlevel : 0 ≤ level) (hreached : c.threshold level ≤ 2147483647) :
    c.base * (level + 1) * (level + 1 + 1) ≤ 9223372036854775807 := by
  have hlow := c.one_le_base
  have hhigh := c.base_le
  rw [threshold_eq, max_eq_left hlevel] at hreached
  have hproduct : c.base * level * (level + 1) ≤ 4294967295 := by omega
  rcases Int.lt_or_le 0 level with hpos | hzero
  · -- From level one on, the next product is at most three times this one.
    have hnext : c.base * (level + 1) * (level + 1 + 1) ≤
        c.base * (level + 1) * (3 * level) :=
      mul_le_mul_of_nonneg_left (by omega) (mul_nonneg (by omega) (by omega))
    have hthree : c.base * (level + 1) * (3 * level) = 3 * (c.base * level * (level + 1)) := by
      ring
    omega
  · have hlevel0 : level = 0 := by omega
    subst hlevel0
    omega

theorem threshold_succ (hlevel : 0 ≤ level) (hreached : c.threshold level ≤ 2147483647) :
    c.threshold (level + 1) = c.threshold level + c.span level := by
  have hnext := c.product_le_of_reached hlevel hreached
  have hstep : c.base * (level + 1) * (level + 1 + 1) =
      c.base * level * (level + 1) + 2 * c.span level := by
    rw [span]
    ring
  have hspan : 0 ≤ c.span level := mul_nonneg (by have := c.one_le_base; omega) (by omega)
  have hdouble := c.two_mul_threshold hlevel (by omega)
  have hdouble' : 2 * c.threshold (level + 1) = c.base * (level + 1) * (level + 1 + 1) :=
    c.two_mul_threshold (by omega) hnext
  omega

theorem levelFor_eq_iff (h : experience < ceiling) {level : Nat} :
    c.levelFor experience = level ↔
      c.threshold level ≤ max experience 0 ∧ max experience 0 < c.threshold (level + 1) := by
  have hreached : (level : Int) ≤ c.levelFor experience ↔ c.threshold level ≤ max experience 0 :=
    c.le_levelFor_iff h
  have hmissed : (level + 1 : Int) ≤ c.levelFor experience ↔
      c.threshold (level + 1) ≤ max experience 0 :=
    c.le_levelFor_iff h
  omega

section Amounts

variable (experience : Amount)

theorem amount_lt_ceiling : experience.toInt < ceiling := by
  have hbounds := experience.bounds
  rw [ceiling]
  omega

theorem threshold_levelFor_succ :
    c.threshold (c.levelFor experience.toInt + 1) =
      c.threshold (c.levelFor experience.toInt) + c.span (c.levelFor experience.toInt) := by
  have hreached := c.threshold_levelFor_le experience.toInt
  have hbounds := experience.bounds
  exact c.threshold_succ (Int.natCast_nonneg _) (by omega)

/-- What is past the threshold and what is missing make up the span, and some is missing. -/
theorem since_add_toNext (h : 0 ≤ experience.toInt) :
    0 ≤ c.sinceLevel (c.levelFor experience.toInt) experience.toInt ∧
      1 ≤ c.toNextLevel experience.toInt ∧
      c.sinceLevel (c.levelFor experience.toInt) experience.toInt +
        c.toNextLevel experience.toInt = c.span (c.levelFor experience.toInt) := by
  have hreached := c.threshold_levelFor_le experience.toInt
  have hmissed := c.lt_threshold_levelFor_succ (amount_lt_ceiling experience)
  have hnext := c.threshold_levelFor_succ experience
  rw [sinceLevel, toNextLevel]
  omega

theorem levelFor_raised (h : 0 ≤ experience.toInt) {more : Amount}
    (hmore : more.toInt = experience.toInt + c.toNextLevel experience.toInt) :
    c.levelFor more.toInt = c.levelFor experience.toInt + 1 := by
  have hthreshold : more.toInt = c.threshold ((c.levelFor experience.toInt + 1 : Nat) : Int) := by
    rw [hmore, toNextLevel]
    push_cast
    omega
  have hbounds := more.bounds
  have hspan : 0 < c.span ((c.levelFor experience.toInt + 1 : Nat) : Int) :=
    mul_pos (by have := c.one_le_base; omega) (by omega)
  have hsucc : c.threshold ((c.levelFor experience.toInt + 1 : Nat) + 1) =
      c.threshold (c.levelFor experience.toInt + 1 : Nat) +
        c.span (c.levelFor experience.toInt + 1 : Nat) :=
    c.threshold_succ (Int.natCast_nonneg _) (by omega)
  rw [c.levelFor_eq_iff (amount_lt_ceiling more)]
  have hmissing := (c.since_add_toNext experience h).2.1
  omega

theorem levelFor_kept (h : 0 ≤ experience.toInt) {more : Amount}
    (hmore : experience.toInt ≤ more.toInt)
    (hless : more.toInt < experience.toInt + c.toNextLevel experience.toInt) :
    c.levelFor more.toInt = c.levelFor experience.toInt := by
  have hreached := c.threshold_levelFor_le experience.toInt
  rw [toNextLevel] at hless
  rw [c.levelFor_eq_iff (amount_lt_ceiling more)]
  omega

end Amounts

/-- Whatever the base: experience that is not negative is split at its level. What lies past the
threshold and what is missing for the next level are the two parts of the span, of which the second
is not empty. An amount that is higher by what is missing has the next level, and one that is higher
by less has the same level. -/
theorem experience_splits (base experience : Amount) (h : 0 ≤ experience.toInt) :
    let c := ofBase base
    let level := c.levelFor experience.toInt
    let since := c.sinceLevel level experience.toInt
    let missing := c.toNextLevel experience.toInt
    let whole := max base.toInt 1 * (level + 1)
    (0 ≤ since ∧ since ≤ whole - 1) ∧ (1 ≤ missing ∧ missing ≤ whole) ∧ since + missing = whole ∧
      (∀ more : Amount, more.toInt = experience.toInt + missing →
        c.levelFor more.toInt = level + 1) ∧
      ∀ more : Amount, experience.toInt ≤ more.toInt → more.toInt < experience.toInt + missing →
        c.levelFor more.toInt = level := by
  obtain ⟨hsince, hmissing, hsum⟩ := (ofBase base).since_add_toNext experience h
  rw [span] at hsum
  change _ = max base.toInt 1 * _ at hsum
  refine ⟨⟨hsince, ?_⟩, ⟨hmissing, ?_⟩, hsum, ?_, ?_⟩
  · omega
  · omega
  · exact fun more hmore => (ofBase base).levelFor_raised experience h hmore
  · exact fun more hmore hless => (ofBase base).levelFor_kept experience h hmore hless

theorem experience_splits_below_505000 :
    (ofBase 100).sinceLevel 99 504999 + (ofBase 100).toNextLevel 504999 = 100 * (99 + 1) ∧
      (ofBase 100).toNextLevel 504999 = 1 ∧ (ofBase 100).levelFor 505000 = 99 + 1 := by
  have hlevel : (ofBase 100).levelFor (504999 : Amount).toInt = 99 := by decide
  have hmissing : (ofBase 100).toNextLevel (504999 : Amount).toInt = 1 := by decide
  obtain ⟨-, -, hsum, hraised, -⟩ := experience_splits 100 504999 (by decide)
  have hnext := hraised 505000 (by rw [hmissing]; decide)
  rw [hlevel] at hsum hnext
  exact ⟨hsum, hmissing, hnext⟩

end LevelCurve

end Loyalty
