import Loyalty.Level
import Mathlib.Tactic.Linarith
import Mathlib.Tactic.Positivity

/-!
# Levels and thresholds

The level of some experience is the highest one whose threshold the experience reaches, also where
thresholds are cut off. So the two invert each other, and a level never falls as experience grows.

The climb to a level takes 32-bit levels and 64-bit thresholds. It is followed here step by step,
with no step where a number would leave its range: every climb ends, and comes to the level.
-/

namespace Loyalty

namespace LevelCurve

variable (c : LevelCurve) {level experience : Int}

/-- A cut-off before the last factor makes no difference to the result. -/
theorem threshold_eq (level : Int) :
    c.threshold level =
      min (c.base * max level 0 * (max level 0 + 1)) 9223372036854775807 / 2 := by
  have hfactor : 1 ≤ max level 0 + 1 := by omega
  rw [threshold, cappedMul, cappedMul]
  congr 1
  generalize max level 0 + 1 = factor at hfactor
  rcases Int.le_total (c.base * max level 0) 9223372036854775807 with hfits | hover
  · rw [min_eq_left hfits]
  · rw [min_eq_right hover, min_eq_right (by nlinarith), min_eq_right (by nlinarith)]

theorem threshold_mono {low high : Int} (h : low ≤ high) : c.threshold low ≤ c.threshold high := by
  have hbase := c.one_le_base
  have hmax : max low 0 ≤ max high 0 := by omega
  have hlow : 0 ≤ max low 0 := by omega
  rw [threshold_eq, threshold_eq]
  generalize max low 0 = x at *
  generalize max high 0 = y at *
  have hproduct : c.base * x * (x + 1) ≤ c.base * y * (y + 1) :=
    mul_le_mul (mul_le_mul_of_nonneg_left hmax (by omega)) (by omega) (by omega)
      (mul_nonneg (by omega) (by omega))
  exact Int.ediv_le_ediv (by omega) (min_le_min_right _ hproduct)

/-- Half of the largest 64-bit number, which no threshold exceeds. -/
def ceiling : Int := 4611686018427387903

theorem le_threshold (level : Int) : min level ceiling ≤ c.threshold level := by
  have hbase := c.one_le_base
  have hmax : 0 ≤ max level 0 := by omega
  have hle : level ≤ max level 0 := by omega
  rw [threshold_eq, ceiling]
  generalize max level 0 = x at *
  have hproduct : 2 * x ≤ c.base * x * (x + 1) := by
    rcases Int.lt_or_le 0 x with hpos | hzero
    · nlinarith [mul_pos hpos hpos]
    · have hx : x = 0 := by omega
      simp [hx]
  omega

theorem threshold_of_nonpos (h : level ≤ 0) : c.threshold level = 0 := by
  rw [threshold_eq, max_eq_right h]
  simp

section Climb

variable {c}

theorem threshold_climb_le (steps start : Nat) (h : c.threshold start ≤ experience) :
    c.threshold (c.climb experience steps start) ≤ experience := by
  induction steps generalizing start with
  | zero => exact h
  | succ steps ih =>
    rw [climb]
    split
    · rename_i hreached
      exact ih (start + 1) hreached
    · exact h

/-- A climb ends below a threshold that is not reached, unless it takes all its steps. -/
theorem climb_eq_or_lt (c : LevelCurve) (experience : Int) (steps start : Nat) :
    c.climb experience steps start = start + steps ∨
      experience < c.threshold (c.climb experience steps start + 1) := by
  induction steps generalizing start with
  | zero => exact Or.inl rfl
  | succ steps ih =>
    rw [climb]
    split
    · have hrest := ih (start + 1)
      omega
    · rename_i hmissed
      exact Or.inr (Int.not_le.1 hmissed)

end Climb

theorem threshold_levelFor_le (experience : Int) :
    c.threshold (c.levelFor experience) ≤ max experience 0 := by
  apply threshold_climb_le
  rw [Int.ofNat_zero, c.threshold_of_nonpos (Int.le_refl 0)]
  omega

/-- The climb never runs out of steps, for it would have come to a level above the experience. -/
theorem lt_threshold_levelFor_succ (h : experience < ceiling) :
    max experience 0 < c.threshold (c.levelFor experience + 1) := by
  rcases climb_eq_or_lt c (max experience 0) experience.toNat 0 with htop | hlt
  · have hle := c.le_threshold (c.levelFor experience + 1)
    rw [levelFor] at hle ⊢
    rw [ceiling] at h hle
    omega
  · exact hlt

theorem le_levelFor_iff (h : experience < ceiling) :
    level ≤ c.levelFor experience ↔ c.threshold level ≤ max experience 0 := by
  constructor
  · intro hle
    exact (c.threshold_mono hle).trans (c.threshold_levelFor_le experience)
  · intro hreached
    by_contra hlt
    have hsucc : c.levelFor experience + 1 ≤ level := by omega
    have hmono := c.threshold_mono hsucc
    have hnext := c.lt_threshold_levelFor_succ h
    omega

theorem levelFor_mono {less more : Int} (h : less ≤ more) (hmore : more < ceiling) :
    c.levelFor less ≤ c.levelFor more := by
  have hreached := c.threshold_levelFor_le less
  rw [← Int.ofNat_le, c.le_levelFor_iff hmore]
  omega

theorem levelFor_lt (experience : Amount) : c.levelFor experience.toInt < 65536 := by
  have hbounds := experience.bounds
  have hbase := c.one_le_base
  by_contra hhigh
  have hle : (65536 : Int) ≤ c.levelFor experience.toInt := by omega
  rw [c.le_levelFor_iff (by rw [ceiling]; omega), threshold_eq, max_eq_left (by omega)] at hle
  omega

end LevelCurve

theorem Amount.toInt_max (a b : Amount) : (max a b).toInt = max a.toInt b.toInt := by
  change (if a ≤ b then b else a).toInt = _
  split <;> rename_i h <;> rw [Int32.le_iff_toInt_le] at h <;> omega

def word? (i : Int) : Option Int64 :=
  if -9223372036854775808 ≤ i ∧ i ≤ 9223372036854775807 then some (Int64.ofInt i) else none

theorem exists_word {i : Int} (hlow : -9223372036854775808 ≤ i) (hhigh : i ≤ 9223372036854775807) :
    ∃ w, word? i = some w ∧ w.toInt = i :=
  ⟨Int64.ofInt i, if_pos ⟨hlow, hhigh⟩, Int64.toInt_ofInt_of_le (by omega) (by omega)⟩

/-- The product of two 64-bit numbers, cut off at the ends of their range. -/
def mulWords (a b : Int64) : Int64 :=
  Int64.ofInt (max (min (a.toInt * b.toInt) 9223372036854775807) (-9223372036854775808))

theorem LevelCurve.cappedMul_nonneg {a b : Int} (ha : 0 ≤ a) (hb : 0 ≤ b) : 0 ≤ cappedMul a b := by
  have hproduct := mul_nonneg ha hb
  rw [cappedMul]
  omega

theorem toInt_mulWords {a b : Int64} (ha : 0 ≤ a.toInt) (hb : 0 ≤ b.toInt) :
    (mulWords a b).toInt = LevelCurve.cappedMul a.toInt b.toInt := by
  have hproduct := mul_nonneg ha hb
  rw [mulWords, LevelCurve.cappedMul, max_eq_left (by omega)]
  exact Int64.toInt_ofInt_of_le (by omega) (by omega)

namespace LevelCurve

def thresholdWord? (base level : Amount) : Option Int64 := do
  let factor := (max level 0).toInt64
  let next ← word? (factor.toInt + 1)
  some (mulWords (mulWords (max base 1).toInt64 factor) next / 2)

theorem exists_thresholdWord (base level : Amount) :
    ∃ needed, thresholdWord? base level = some needed ∧
      needed.toInt = (ofBase base).threshold level.toInt := by
  have hlevel := level.bounds
  have hone := (ofBase base).one_le_base
  have hfactor : (max level 0).toInt64.toInt = max level.toInt 0 := by
    rw [Int32.toInt_toInt64, Amount.toInt_max]
    rfl
  have hbase : (max base 1).toInt64.toInt = (ofBase base).base := by
    rw [Int32.toInt_toInt64, Amount.toInt_max]
    rfl
  obtain ⟨next, hnext, hvalue⟩ := exists_word (i := max level.toInt 0 + 1) (by omega) (by omega)
  have hinner := toInt_mulWords (a := (max base 1).toInt64) (b := (max level 0).toInt64)
    (by omega) (by omega)
  have hinner_nonneg := cappedMul_nonneg (a := (ofBase base).base) (b := max level.toInt 0)
    (by omega) (by omega)
  rw [hbase, hfactor] at hinner
  have houter := toInt_mulWords (b := next) (hinner.symm ▸ hinner_nonneg) (by omega)
  refine ⟨mulWords (mulWords (max base 1).toInt64 (max level 0).toInt64) next / 2, ?_, ?_⟩
  · rw [thresholdWord?, hfactor, hnext]
    rfl
  · rw [Int64.toInt_div_of_ne_right _ _ (by decide), houter, hinner, hvalue]
    exact Int.tdiv_eq_ediv_of_nonneg (cappedMul_nonneg hinner_nonneg (by omega))

theorem toInt_thresholdWord {base level : Amount} {needed : Int64}
    (h : thresholdWord? base level = some needed) :
    needed.toInt = (ofBase base).threshold level.toInt := by
  obtain ⟨_, hneeded, hvalue⟩ := exists_thresholdWord base level
  cases h.symm.trans hneeded
  exact hvalue

/-- The climb from a level, one level after the other as long as the next threshold is reached. It
takes a level or a threshold only where that fits, and has an end. -/
inductive Climbs (base : Amount) (experience : Int64) : Amount → Amount → Prop
  | stay {level next : Amount} {needed : Int64} (hnext : level.add? 1 = some next)
      (hneeded : thresholdWord? base next = some needed) (hmissed : ¬ needed ≤ experience) :
      Climbs base experience level level
  | rise {level next top : Amount} {needed : Int64} (hnext : level.add? 1 = some next)
      (hneeded : thresholdWord? base next = some needed) (hreached : needed ≤ experience)
      (hrest : Climbs base experience next top) : Climbs base experience level top

section

variable {base experience level next top : Amount} {needed : Int64}

theorem toInt_next (hnext : level.add? 1 = some next) : next.toInt = level.toInt + 1 :=
  Amount.ofInt?_eq_some_iff.1 hnext

theorem word_le_iff (hnext : level.add? 1 = some next)
    (hneeded : thresholdWord? base next = some needed) :
    needed ≤ (max experience 0).toInt64 ↔
      level.toInt + 1 ≤ (ofBase base).levelFor experience.toInt := by
  have hbounds := experience.bounds
  rw [Int64.le_iff_toInt_le, toInt_thresholdWord hneeded, Int32.toInt_toInt64, Amount.toInt_max,
    toInt_next hnext, le_levelFor_iff _ (by rw [ceiling]; omega)]
  rfl

theorem Climbs.toInt_top (h : Climbs base (max experience 0).toInt64 level top)
    (hstart : level.toInt ≤ (ofBase base).levelFor experience.toInt) :
    top.toInt = (ofBase base).levelFor experience.toInt := by
  induction h with
  | stay hnext hneeded hmissed =>
    rw [word_le_iff hnext hneeded] at hmissed
    omega
  | rise hnext hneeded hreached _ ih =>
    rw [word_le_iff hnext hneeded] at hreached
    apply ih
    rw [toInt_next hnext]
    exact hreached

theorem exists_next (base level : Amount) (hroom : level.toInt < 2147483647) :
    ∃ next needed, level.add? 1 = some next ∧ thresholdWord? base next = some needed := by
  cases hnext : level.add? 1 with
  | none =>
    have hrange : level.toInt + 1 < -2147483648 ∨ 2147483647 < level.toInt + 1 :=
      Amount.ofInt?_eq_none_iff.1 hnext
    have hbounds := level.bounds
    omega
  | some next =>
    obtain ⟨needed, hneeded, -⟩ := exists_thresholdWord base next
    exact ⟨next, needed, rfl, hneeded⟩

/-- Every climb that starts no higher than the level has an end. The induction is on what is still
to be climbed. -/
theorem exists_climbs (base experience level : Amount) (gap : Nat)
    (hgap : level.toInt + gap = (ofBase base).levelFor experience.toInt) :
    ∃ top, Climbs base (max experience 0).toInt64 level top := by
  have hlow := (ofBase base).levelFor_lt experience
  induction gap generalizing level with
  | zero =>
    obtain ⟨next, needed, hnext, hneeded⟩ := exists_next base level (by omega)
    refine ⟨level, .stay hnext hneeded ?_⟩
    rw [word_le_iff hnext hneeded]
    omega
  | succ gap ih =>
    obtain ⟨next, needed, hnext, hneeded⟩ := exists_next base level (by omega)
    obtain ⟨top, hrest⟩ := ih next (by rw [toInt_next hnext]; omega)
    refine ⟨top, .rise hnext hneeded ?_ hrest⟩
    rw [word_le_iff hnext hneeded]
    omega

end

/-- Whatever the base: some experience has a level exactly where it reaches the threshold of that
level. The threshold is the formula cut off once, no 64-bit number overflows on the way to it, and
the climb from level zero ends, with every level on it and the next one an amount. -/
theorem levels_invert_thresholds (base level experience : Amount) :
    (level.toInt ≤ (ofBase base).levelFor experience.toInt ↔
      (ofBase base).threshold level.toInt ≤ max experience.toInt 0) ∧
    (ofBase base).threshold level.toInt =
      min (max base.toInt 1 * max level.toInt 0 * (max level.toInt 0 + 1)) (2 ^ 63 - 1) / 2 ∧
    (∃ needed, thresholdWord? base level = some needed ∧
      needed.toInt = (ofBase base).threshold level.toInt) ∧
    ∃ top : Amount, top.toInt = (ofBase base).levelFor experience.toInt ∧
      ∀ l, Climbs base (max experience 0).toInt64 0 l ↔ l = top := by
  have hbounds := experience.bounds
  have htop : ∀ l, Climbs base (max experience 0).toInt64 0 l →
      l.toInt = (ofBase base).levelFor experience.toInt :=
    fun l h => h.toInt_top (Int.natCast_nonneg _)
  obtain ⟨top, hclimbs⟩ := exists_climbs base experience 0
    ((ofBase base).levelFor experience.toInt) (Int.zero_add _)
  refine ⟨le_levelFor_iff _ (by rw [ceiling]; omega), threshold_eq _ _,
    exists_thresholdWord base level, top, htop top hclimbs, fun l => ⟨fun h => ?_, ?_⟩⟩
  · rw [← Int32.toInt_inj, htop l h, htop top hclimbs]
  · rintro rfl
    exact hclimbs

/-- On the steepest curve the thresholds of high levels are cut off, and no amount of experience
comes to the second level. -/
example : (ofBase 2147483647).threshold 2147483647 = ceiling ∧
    (ofBase 2147483647).levelFor 2147483647 = 1 := by decide

end LevelCurve

end Loyalty
