import Loyalty.Proofs.Availability
import Loyalty.Proofs.Gates

/-!
# What a redemption is decided on

A redemption looks at the coupon, at the day, at the experience and at the points of the user, in
this order, and the first thing that is missing decides it. A coupon without a cost writes nothing.
In every store that callers have come to, the debit that pays for any other one is covered by the
balance that was just read, so it is neither refused nor out of range.
-/

namespace Loyalty

open Memory

namespace Validity

/-- The day is one of those on which something applies, both ends included. -/
def Covers (v : Validity) (day : Date) : Prop :=
  ∀ w, v = .window w → w.opens ≤ day ∧ day ≤ w.closes

theorem statusOn_eq_active_iff {v : Validity} {day : Date} :
    v.statusOn day = .active ↔ v.Covers day := by
  cases v with
  | indefinite => simp [statusOn, Covers]
  | window w =>
    have hafter : w.statusOn day = .after ↔ w.closes < day := w.statusOn_eq_after_iff
    have hbefore : w.statusOn day = .before ↔ day < w.opens := w.statusOn_eq_before_iff
    simp only [statusOn, Covers, window.injEq, forall_eq', Date.le_def, Date.lt_def] at *
    cases hstatus : w.statusOn day <;> simp_all

end Validity

theorem Coupon.isRedeemableOn_iff {c : Coupon} {day : Date} :
    c.isRedeemableOn day = true ↔ c.deleted = false ∧ c.validity.Covers day := by
  rw [← Validity.statusOn_eq_active_iff]
  simp [isRedeemableOn, statusOn]

theorem Balance.le_level_iff {b : Balance} {curve : LevelCurve} {required : Amount} :
    required.toInt ≤ b.level curve ↔
      curve.threshold required.toInt ≤ max b.experience.toInt 0 := by
  have hbounds := b.experience.bounds
  exact curve.le_levelFor_iff (by rw [LevelCurve.ceiling]; omega)

theorem Amount.pos_of_ne_zero {a : Amount} (h : 0 ≤ a.toInt) (hne : a ≠ 0) : 0 < a := by
  have hzero : a.toInt ≠ 0 := fun heq => hne (Int32.toInt_inj.1 heq)
  exact Int32.lt_iff_toInt_lt.2 (lt_of_le_of_ne h hzero.symm)

theorem Logged.points_nonneg {direct : Prop} {past : List Exchange} {s : Memory}
    (h : Logged direct past s) {id : CouponId} {c : Coupon}
    (hfound : s.coupons.find? id = some c) : 0 ≤ c.points.toInt := by
  induction h generalizing id c with
  | empty => cases hfound
  | answered _ hreason hanswer ih =>
    rcases hanswer.change.coupon hfound with
      ⟨earlier, hearlier, hprice⟩ | ⟨-, -, input, hx, hpoints⟩
    · rw [← show earlier.points = c.points from congrArg Prod.snd hprice]
      exact ih hearlier
    · cases hx
      rcases hreason with ⟨-, hmoves⟩ | ⟨form, hform⟩
      · cases hmoves
      · rw [hpoints]
        exact CouponForm.points_of_validate hform

namespace Memory

structure Live (s : Memory) (today : Date) (id : CouponId) (c : Coupon) : Prop where
  stored : s.coupons.find? id = some c
  kept : c.deleted = false
  covered : c.validity.Covers today

structure Entitles (s : Memory) (curve : LevelCurve) (today : Date) (userId : UserId)
    (id : CouponId) (c : Coupon) : Prop where
  live : s.Live today id c
  level : curve.threshold c.level.toInt ≤
    max (s.balanceOf userId c.restaurantId).experience.toInt 0

/-- What a redemption is answered and what becomes of the store. The cases stand in the order of the
checks, and each of them excludes all others. -/
inductive Redeems (s : Memory) (curve : LevelCurve) (today : Date) (userId : UserId)
    (id : CouponId) : Except Refusal Reply → Memory → Prop
  | unknown (habsent : s.coupons.find? id = none) :
      Redeems s curve today userId id (.error (.coupon (.notFound id))) s
  | unavailable {c : Coupon} (hstored : s.coupons.find? id = some c)
      (hclosed : c.deleted = true ∨ ¬ c.validity.Covers today) :
      Redeems s curve today userId id (.error (.coupon (.unavailable id))) s
  | low {c : Coupon} (hlive : s.Live today id c)
      (hlow : max (s.balanceOf userId c.restaurantId).experience.toInt 0 <
        curve.threshold c.level.toInt) :
      Redeems s curve today userId id
        (.error (.coupon
          (.levelTooLow c.level ((s.balanceOf userId c.restaurantId).level curve)))) s
  | free {c : Coupon} (hentitles : s.Entitles curve today userId id c) (hfree : c.points = 0) :
      Redeems s curve today userId id (.ok (.balance (s.balanceOf userId c.restaurantId))) s
  | short {c : Coupon} (hentitles : s.Entitles curve today userId id c) (hcost : 0 < c.points)
      (hshort : (s.balanceOf userId c.restaurantId).points < c.points) :
      Redeems s curve today userId id
        (.error (.coupon (.insufficientPoints c.points (s.balanceOf userId c.restaurantId).points)))
        s
  | paid {c : Coupon} {b : Balance} {rest : Amount}
      (hentitles : s.Entitles curve today userId id c) (hcost : 0 < c.points)
      (hstored : s.balances.find? (userId, c.restaurantId) = some b)
      (hcovered : c.points ≤ b.points) (hrest : rest.toInt = b.points.toInt - c.points.toInt) :
      Redeems s curve today userId id (.ok (.balance { b with points := rest }))
        { s with balances := s.balances.put { b with points := rest } }

variable {s : Memory} {curve : LevelCurve} {today : Date} {userId : UserId} {id : CouponId}
  {c : Coupon}

theorem find?_of_points_pos {restaurantId : RestaurantId}
    (h : 0 < (s.balanceOf userId restaurantId).points) :
    s.balances.find? (userId, restaurantId) = some (s.balanceOf userId restaurantId) := by
  cases hfound : s.balances.find? (userId, restaurantId) with
  | none =>
    rw [balanceOf, hfound] at h
    exact absurd h Int32.lt_irrefl
  | some b => rw [balanceOf, hfound, Option.getD_some]

theorem exists_debit {restaurantId : RestaurantId} {points : Amount} {b : Balance}
    (hfound : s.balances.find? (userId, restaurantId) = some b) (hcost : 0 < points)
    (hcovered : points ≤ b.points) :
    ∃ rest : Amount, rest.toInt = b.points.toInt - points.toInt ∧
      handle (.debit userId restaurantId points) s = (.ok (some { b with points := rest }),
        { s with balances := s.balances.put { b with points := rest } }) := by
  have hbounds := b.points.bounds
  have hle := Int32.le_iff_toInt_le.1 hcovered
  have hlt : 0 < points.toInt := Int32.lt_iff_toInt_lt.1 hcost
  have hrest : (Int32.ofInt (b.points.toInt - points.toInt)).toInt =
      b.points.toInt - points.toInt := Int32.toInt_ofInt_of_le (by omega) (by omega)
  have hsub : b.points.sub? points = some (Int32.ofInt (b.points.toInt - points.toInt)) :=
    Amount.ofInt?_eq_some_iff.2 hrest
  refine ⟨_, hrest, ?_⟩
  simp only [handle, debit, hfound, if_neg (Int32.not_lt.2 hcovered), hsub]

end Memory

namespace Coupons

variable {s : Memory} {curve : LevelCurve} {today : Date} {userId : UserId} {id : CouponId}
  {c : Coupon}

/-- After the coupon was found live, the balance decides. -/
theorem run_spend (curve : LevelCurve) (c : Coupon) (userId : UserId) (s : Memory) :
    (spend curve c userId).run handle s =
      if c.level.toInt ≤ (s.balanceOf userId c.restaurantId).level curve then
        if c.points = 0 then (.ok (s.balanceOf userId c.restaurantId), s)
        else if c.points ≤ (s.balanceOf userId c.restaurantId).points then
          (pay c (s.balanceOf userId c.restaurantId) userId).run handle s
        else
          (.error (.insufficientPoints c.points (s.balanceOf userId c.restaurantId).points), s)
      else
        (.error (.levelTooLow c.level ((s.balanceOf userId c.restaurantId).level curve)), s) := by
  have hread : handle (.findBalance userId c.restaurantId) s =
      (.ok (s.balances.find? (userId, c.restaurantId)), s) := rfl
  rw [spend, Script.run_ask_bind hread, ← balanceOf, Script.run_require]
  simp only [decide_eq_true_eq]
  split_ifs with hlevel hfree hcovered
  · rfl
  · rw [Script.run_require, if_pos (decide_eq_true hcovered)]
  · rw [Script.run_require, if_neg (by simpa using hcovered)]
  · rfl

theorem run_pay {b : Balance} (hfound : s.balances.find? (userId, c.restaurantId) = some b)
    (hcost : 0 < c.points) (hcovered : c.points ≤ b.points) :
    ∃ rest : Amount, rest.toInt = b.points.toInt - c.points.toInt ∧
      (pay c b userId).run handle s = (.ok { b with points := rest },
        { s with balances := s.balances.put { b with points := rest } }) := by
  obtain ⟨rest, hrest, hdebit⟩ := exists_debit hfound hcost hcovered
  exact ⟨rest, hrest, Script.run_ask_bind hdebit⟩

end Coupons

namespace Memory

theorem redeems_call {s : Memory} {id : CouponId}
    (hpriced : ∀ c, s.coupons.find? id = some c → 0 ≤ c.points.toInt) (curve : LevelCurve)
    (today : Date) (userId : UserId) :
    s.Redeems curve today userId id ((Operation.redeem curve today userId id).call s).answer
      ((Operation.redeem curve today userId id).call s).after := by
  dsimp only [Operation.call, Operation.script]
  rw [Script.run_relabel]
  cases hstored : s.coupons.find? id with
  | none =>
    rw [Coupons.redeem, Script.bind_eq, Script.run_bind, Coupons.run_get_absent hstored]
    exact .unknown hstored
  | some c =>
    rw [Coupons.run_redeem hstored, Script.run_require]
    by_cases hlive : c.isRedeemableOn today = true
    · obtain ⟨hkept, hcovers⟩ := Coupon.isRedeemableOn_iff.1 hlive
      have hcost : c.points ≠ 0 → 0 < c.points := Amount.pos_of_ne_zero (hpriced c hstored)
      rw [if_pos hlive, Coupons.run_spend]
      split_ifs with hlevel hfree hcovered
      · exact .free ⟨⟨hstored, hkept, hcovers⟩, Balance.le_level_iff.1 hlevel⟩ hfree
      · have hfound := find?_of_points_pos (Int32.lt_of_lt_of_le (hcost hfree) hcovered)
        obtain ⟨rest, hrest, hpay⟩ := Coupons.run_pay hfound (hcost hfree) hcovered
        rw [hpay]
        exact .paid ⟨⟨hstored, hkept, hcovers⟩, Balance.le_level_iff.1 hlevel⟩ (hcost hfree) hfound
          hcovered hrest
      · exact .short ⟨⟨hstored, hkept, hcovers⟩, Balance.le_level_iff.1 hlevel⟩ (hcost hfree)
          (Int32.not_le.1 hcovered)
      · exact .low ⟨hstored, hkept, hcovers⟩ (Int.not_le.1 (mt Balance.le_level_iff.2 hlevel))
    · rw [if_neg hlive]
      refine .unavailable hstored ?_
      rw [Coupon.isRedeemableOn_iff] at hlive
      by_cases hdeleted : c.deleted = true
      · exact Or.inl hdeleted
      · exact Or.inr fun hcovers => hlive ⟨Bool.eq_false_iff.2 hdeleted, hcovers⟩

/-- A redemption that costs something writes the balance that it answers, and no other one. -/
theorem Redeems.written {s s' : Memory} {curve : LevelCurve} {today : Date} {userId : UserId}
    {id : CouponId} {c : Coupon} {b : Balance}
    (h : s.Redeems curve today userId id (.ok (.balance b)) s')
    (hstored : s.coupons.find? id = some c) (hcost : c.points ≠ 0) :
    s'.balances.find? (userId, c.restaurantId) = some b ∧
      ∀ key, key ≠ (userId, c.restaurantId) →
        s'.balances.find? key = s.balances.find? key := by
  cases h with
  | @free d hentitles hfree =>
    cases hstored.symm.trans hentitles.live.stored
    exact absurd hfree hcost
  | @paid d b rest hentitles _ hfound _ _ =>
    cases hstored.symm.trans hentitles.live.stored
    have hkey : Keyed.key { b with points := rest } = (userId, c.restaurantId) :=
      (Table.find?_eq_some_iff.1 hfound).2
    refine ⟨Table.find?_put_of_eq hkey, fun key hother => ?_⟩
    exact Table.find?_put_of_ne (by rw [hkey]; exact hother.symm)

end Memory

namespace World

/-- Whatever turns were taken, faults included: a redemption is decided by the first of its checks
that fails, and changes nothing then. Where none fails and the coupon costs something, the balance
that it answers is the one that is read next, and all others stay. -/
theorem redemption_decided (turns : List Turn) (curve : LevelCurve) (today : Date)
    (userId : UserId) (id : CouponId) :
    let s := (run turns).store
    let c := (Operation.redeem curve today userId id).call s
    s.Redeems curve today userId id c.answer c.after ∧
      ∀ coupon b, s.coupons.find? id = some coupon → coupon.points ≠ 0 →
        c.answer = .ok (.balance b) →
          ((Operation.findBalance userId coupon.restaurantId).call c.after).answer =
              .ok (.balanceIfAny (some b)) ∧
            ∀ key, key ≠ (userId, coupon.restaurantId) →
              c.after.balances.find? key = s.balances.find? key := by
  have hlogged : Logged True (run turns).exchanges (run turns).store :=
    logged_run turns fun _ _ _ => trivial
  have hpriced : ∀ c, (run turns).store.coupons.find? id = some c → 0 ≤ c.points.toInt :=
    fun _ hfound => hlogged.points_nonneg hfound
  have hdecided := redeems_call hpriced curve today userId
  refine ⟨hdecided, fun coupon b hstored hcost hanswer => ?_⟩
  rw [hanswer] at hdecided
  obtain ⟨hread, hothers⟩ := hdecided.written hstored hcost
  refine ⟨?_, hothers⟩
  rw [← hread]
  rfl

theorem gatePassed_redeems :
    ((Operation.redeem .standard .newYear ⟨7⟩ ⟨2⟩).call (run gatePassed).store).answer =
        .ok (.balance ⟨⟨7⟩, ⟨1⟩, 4, 120⟩) ∧
      ((Operation.findBalance ⟨7⟩ ⟨1⟩).call
        ((Operation.redeem .standard .newYear ⟨7⟩ ⟨2⟩).call (run gatePassed).store).after).answer =
          .ok (.balanceIfAny (some ⟨⟨7⟩, ⟨1⟩, 4, 120⟩)) := by
  have hanswer :
      ((Operation.redeem .standard .newYear ⟨7⟩ ⟨2⟩).call (run gatePassed).store).answer =
        .ok (.balance ⟨⟨7⟩, ⟨1⟩, 4, 120⟩) := by
    decide
  obtain ⟨-, hwritten⟩ := redemption_decided gatePassed .standard .newYear ⟨7⟩ ⟨2⟩
  have hcoupon : (run gatePassed).store.coupons.find? ⟨2⟩ =
      some ⟨⟨2⟩, ⟨1⟩, "Tea", "One cup", 6, 1, .indefinite, false⟩ := by
    decide
  exact ⟨hanswer, (hwritten _ _ hcoupon (by decide) hanswer).1⟩

end World

end Loyalty
