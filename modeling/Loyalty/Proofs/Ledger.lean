import Loyalty.Proofs.Catalog
import Mathlib.Algebra.BigOperators.Fin

/-!
# The ledger balances

Services move points in two ways only: a completion pays its reward, and a redemption takes the
price of its coupon. So a stored balance is what the user was paid at the restaurant less what was
taken there, and as a debit is made only where it is covered, no balance is ever negative.
-/

namespace Loyalty

def Exchange.received (value : Reward → Amount) (userId : UserId) (restaurantId : RestaurantId)
    (x : Exchange) : Int :=
  match x.payment? with
  | some p =>
    if p.userId = userId ∧ p.reward.restaurantId = restaurantId then (value p.reward).toInt else 0
  | none => 0

def Exchange.rewards (userId : UserId) (restaurantId : RestaurantId) (x : Exchange) : Bool :=
  x.payment?.any fun p => p.userId = userId ∧ p.reward.restaurantId = restaurantId

def Purchase.cost (userId : UserId) (restaurantId : RestaurantId) (p : Purchase) : Int :=
  if p.userId = userId ∧ p.restaurantId = restaurantId then p.points.toInt else 0

def Exchange.spent (userId : UserId) (restaurantId : RestaurantId) (x : Exchange) : Int :=
  match x.purchase? with
  | some p => p.cost userId restaurantId
  | none => 0

section Totals

variable (userId : UserId) (restaurantId : RestaurantId) (past : List Exchange)

def received (value : Reward → Amount) : Int :=
  (past.map (Exchange.received value userId restaurantId)).sum

def spent : Int := (past.map (Exchange.spent userId restaurantId)).sum

theorem received_cons (value : Reward → Amount) (x : Exchange) :
    received userId restaurantId (x :: past) value =
      x.received value userId restaurantId + received userId restaurantId past value := by
  rw [received, List.map_cons, List.sum_cons]
  rfl

theorem spent_cons (x : Exchange) :
    spent userId restaurantId (x :: past) =
      x.spent userId restaurantId + spent userId restaurantId past := by
  rw [spent, List.map_cons, List.sum_cons]
  rfl

/-- Only purchases take points. -/
theorem spent_eq_sum_purchasesIn :
    spent userId restaurantId past =
      ((purchasesIn past).map (Purchase.cost userId restaurantId)).sum := by
  induction past with
  | nil => rfl
  | cons x past ih =>
    rw [spent_cons, ih, Exchange.spent]
    unfold purchasesIn
    rw [List.filterMap_cons]
    cases x.purchase? with
    | none => exact Int.zero_add _
    | some p => rfl

end Totals

namespace Exchange

variable {x : Exchange} {userId : UserId} {restaurantId : RestaurantId}

theorem rewards_eq_false
    (h : ∀ p, x.payment? = some p →
      (p.userId, p.reward.restaurantId) ≠ (userId, restaurantId)) :
    x.rewards userId restaurantId = false := by
  rw [← Bool.not_eq_true, rewards, Option.any_eq_true]
  rintro ⟨p, hp, hat⟩
  obtain ⟨rfl, rfl⟩ := of_decide_eq_true hat
  exact h p hp rfl

theorem received_eq_zero (h : x.rewards userId restaurantId = false) (value : Reward → Amount) :
    x.received value userId restaurantId = 0 := by
  unfold received
  split
  · rename_i p hp
    rw [rewards, hp] at h
    exact if_neg (of_decide_eq_false h)
  · rfl

theorem spent_eq_zero
    (h : ∀ p, x.purchase? = some p → (p.userId, p.restaurantId) ≠ (userId, restaurantId)) :
    x.spent userId restaurantId = 0 := by
  unfold spent
  split
  · rename_i p hp
    apply if_neg
    rintro ⟨rfl, rfl⟩
    exact h p hp rfl
  · rfl

end Exchange

theorem received_eq_zero {userId : UserId} {restaurantId : RestaurantId} {past : List Exchange}
    (h : past.any (Exchange.rewards userId restaurantId) = false) (value : Reward → Amount) :
    received userId restaurantId past value = 0 := by
  induction past with
  | nil => rfl
  | cons x past ih =>
    rw [List.any_cons, Bool.or_eq_false_iff] at h
    rw [received_cons, ih h.2, Exchange.received_eq_zero h.1, Int.zero_add]

/-- What a log tells of a stored balance, or of the lack of one. -/
def Tallied (userId : UserId) (restaurantId : RestaurantId) (past : List Exchange) :
    Option Balance → Prop
  | none =>
    past.any (Exchange.rewards userId restaurantId) = false ∧ spent userId restaurantId past = 0
  | some b =>
    past.any (Exchange.rewards userId restaurantId) = true ∧
      b.points.toInt =
        received userId restaurantId past Reward.points - spent userId restaurantId past ∧
      b.experience.toInt = received userId restaurantId past Reward.experience ∧
      0 ≤ b.points.toInt ∧ 0 ≤ b.experience.toInt

/-- The numbers of a balance, where none counts as the empty one. -/
theorem Tallied.getD {userId : UserId} {restaurantId : RestaurantId} {past : List Exchange}
    {balance : Option Balance} (h : Tallied userId restaurantId past balance) :
    (balance.getD (.empty userId restaurantId)).points.toInt =
        received userId restaurantId past Reward.points - spent userId restaurantId past ∧
      (balance.getD (.empty userId restaurantId)).experience.toInt =
        received userId restaurantId past Reward.experience ∧
      0 ≤ (balance.getD (.empty userId restaurantId)).points.toInt ∧
      0 ≤ (balance.getD (.empty userId restaurantId)).experience.toInt := by
  cases balance with
  | some b => exact h.2
  | none =>
    rw [received_eq_zero h.1, received_eq_zero h.1, h.2]
    exact ⟨rfl, rfl, Int.le_refl 0, Int.le_refl 0⟩

/-- The exchange pays no less than nothing, and moves no points but by completions and debits. -/
def Exchange.IsFair (x : Exchange) : Prop :=
  (∀ p, x.payment? = some p → 0 ≤ p.reward.points.toInt ∧ 0 ≤ p.reward.experience.toInt) ∧
    ∀ userId restaurantId points experience balance,
      x ≠ ⟨.credit userId restaurantId points experience, .ok balance⟩

theorem Tallied.step {userId : UserId} {restaurantId : RestaurantId} {past : List Exchange}
    {x : Exchange} {before after : Option Balance} (h : Tallied userId restaurantId past before)
    (hfair : x.IsFair) (hstep : Memory.BalanceStep userId restaurantId x before after) :
    Tallied userId restaurantId (x :: past) after := by
  cases hstep with
  | credited hcredit hx => exact absurd hx (hfair.2 _ _ _ _ _)
  | @paid row reward _ b huser hrestaurant hcredit hx =>
    obtain ⟨hpoints, hexperience, hpositive, hpositive'⟩ := h.getD
    obtain ⟨hpoints', hexperience'⟩ := Memory.toInt_of_credited? hcredit
    obtain ⟨hreward, hreward'⟩ : 0 ≤ reward.points.toInt ∧ 0 ≤ reward.experience.toInt :=
      hfair.1 ⟨row.userId, row.achievementId, reward⟩ (hx ▸ rfl)
    subst huser hrestaurant hx
    refine ⟨by simp [Exchange.rewards, Exchange.payment?], ?_⟩
    rw [received_cons, received_cons, spent_cons]
    simp only [Exchange.received, Exchange.spent, Exchange.payment?, Exchange.purchase?, and_self,
      if_true]
    omega
  | @debited points rest b hcovered hrest hx =>
    obtain ⟨hpaid, hpoints, hexperience, hpositive, hpositive'⟩ := h
    have hrest' := Amount.ofInt?_eq_some_iff.1 hrest
    rw [Int32.lt_iff_toInt_lt] at hcovered
    subst hx
    refine ⟨hpaid, ?_⟩
    rw [received_cons, received_cons, spent_cons]
    simp only [Exchange.received, Exchange.spent, Exchange.payment?, Exchange.purchase?,
      Purchase.cost, and_self, if_true]
    omega
  | kept hpays hspends =>
    have hrewards := Exchange.rewards_eq_false hpays
    have hspent : spent userId restaurantId (x :: past) = spent userId restaurantId past := by
      rw [spent_cons, Exchange.spent_eq_zero hspends, Int.zero_add]
    have hreceived : ∀ value, received userId restaurantId (x :: past) value =
        received userId restaurantId past value := by
      intro value
      rw [received_cons, Exchange.received_eq_zero hrewards, Int.zero_add]
    cases before <;>
      simpa only [Tallied, List.any_cons, hrewards, Bool.false_or, hspent, hreceived] using h

structure Balanced (past : List Exchange) (s : Memory) : Prop where
  rewarded : ∀ p ∈ paymentsIn past,
    ∃ a ∈ offersIn past, a.id = p.achievementId ∧ a.reward = p.reward
  tallied : ∀ (userId : UserId) (restaurantId : RestaurantId),
    Tallied userId restaurantId past (s.balances.find? (userId, restaurantId))

theorem balanced_empty : Balanced [] .empty where
  rewarded _ hp := absurd hp List.not_mem_nil
  tallied _ _ := ⟨rfl, rfl⟩

theorem Balanced.step {past : List Exchange} {s s' : Memory} {r : Request}
    {answer : Except StoreError r.Answer} (h : Balanced past s) (hcatalog : Catalog past s)
    (hreason : r.Justified past) (hanswer : s.Answers r answer s') :
    Balanced (⟨r, answer⟩ :: past) s' := by
  have hpaid : ∀ p, Exchange.payment? ⟨r, answer⟩ = some p →
      ∃ a ∈ offersIn past, a.id = p.achievementId ∧ a.reward = p.reward := by
    intro p hp
    obtain ⟨a, hshown, hreward⟩ := hreason.shown_of_payment hp
    obtain ⟨ha, hid⟩ := hcatalog.shown _ a hshown
    exact ⟨a, ha, hid, hreward.symm⟩
  have hfair : Exchange.IsFair ⟨r, answer⟩ := by
    constructor
    · intro p hp
      obtain ⟨a, ha, _, hreward⟩ := hpaid p hp
      obtain ⟨hpoints, hexperience, _⟩ := hcatalog.sound a ha
      rw [← hreward]
      exact ⟨hpoints, hexperience⟩
    · rintro userId restaurantId points experience balance heq
      cases heq
      exact hreason
  constructor
  · intro p hp
    obtain ⟨x, hx, hpayment⟩ := List.mem_filterMap.1 hp
    have hearlier : ∃ a ∈ offersIn past, a.id = p.achievementId ∧ a.reward = p.reward := by
      rcases List.mem_cons.1 hx with rfl | hx
      · exact hpaid p hpayment
      · exact h.rewarded p (List.mem_filterMap.2 ⟨x, hx, hpayment⟩)
    obtain ⟨a, ha, hreward⟩ := hearlier
    exact ⟨a, mem_offersIn_cons.2 (Or.inr ha), hreward⟩
  · intro userId restaurantId
    exact (h.tallied userId restaurantId).step hfair (hanswer.change.balance userId restaurantId)

theorem Logged.balanced {past : List Exchange} {s : Memory} (h : Logged False past s)
    (hfits : s.created < 2147483647) : Balanced past s := by
  induction h with
  | empty => exact balanced_empty
  | answered h hreason hanswer ih =>
    have hgrows := hanswer.change.created_le
    exact (ih (by omega)).step (h.catalog (by omega)) (hreason.resolve_left fun hr => hr.1) hanswer

theorem Coupon.sum_purchases (c : Coupon) (buyer userId : UserId) (restaurantId : RestaurantId) :
    ((c.purchases buyer).map (Purchase.cost userId restaurantId)).sum =
      if buyer = userId ∧ c.restaurantId = restaurantId then c.points.toInt else 0 := by
  unfold purchases
  split
  · rename_i hfree
    rw [hfree]
    exact (ite_self 0).symm
  · exact Int.add_zero _

def Caller.cost (s : Memory) (userId : UserId) (restaurantId : RestaurantId) (c : Caller) : Int :=
  match c.op, c.result? with
  | .redeem _ _ buyer couponId, some (.ok _) =>
    match s.coupons.find? couponId with
    | some coupon =>
      if buyer = userId ∧ coupon.restaurantId = restaurantId then coupon.points.toInt else 0
    | none => 0
  | _, _ => 0

namespace World

variable {allowed : Operation → Prop} {w : World}

def costs (w : World) (userId : UserId) (restaurantId : RestaurantId) : Int :=
  (w.callers.map (Caller.cost w.store userId restaurantId)).sum

/-- A sum over all exchanges, caller by caller. -/
theorem Faithful.sum_exchanges (h : Faithful allowed w) (f : Exchange → Int) :
    (w.exchanges.map f).sum =
      ∑ i ∈ Finset.range w.callers.length, ((w.past i).map f).sum := by
  obtain ⟨s, callers, history⟩ := w
  have hknown := h.known
  clear h
  induction history with
  | nil => simp [exchanges, past]
  | cons e history ih =>
    have hfirst : e.caller < callers.length := hknown e List.mem_cons_self
    have hstep : ∀ i, (((World.mk s callers (e :: history)).past i).map f).sum =
        (if e.caller = i then f e.exchange else 0) +
          (((World.mk s callers history).past i).map f).sum := by
      intro i
      rw [past_cons]
      split <;> simp
    rw [Finset.sum_congr rfl fun i _ => hstep i, Finset.sum_add_distrib,
      ← ih fun e he => hknown e (List.mem_cons_of_mem _ he), Finset.sum_ite_eq,
      if_pos (Finset.mem_range.2 hfirst)]
    rfl

/-- A caller that has not ended took nothing yet, and else it took what its contract says. -/
theorem Faithful.spends (h : Faithful allowed w) {i : Nat} {c : Caller}
    (hc : w.callers[i]? = some c) :
    match c.result? with
    | some result => c.op.Spends (w.past i) result
    | none => purchasesIn (w.past i) = [] := by
  have hkeeps := h.keeps i c hc
  obtain ⟨op, rest⟩ := c
  cases rest with
  | done reply => exact hkeeps.2
  | fail refusal => exact hkeeps.2
  | call r next => exact hkeeps.1.1.2

/-- A caller spent exactly what its redemption cost. -/
theorem Faithful.spent_past (h : Faithful (fun op => op.movesPoints = false) w)
    (hcatalog : Catalog w.exchanges w.store) (userId : UserId) (restaurantId : RestaurantId)
    {i : Nat} {c : Caller} (hc : w.callers[i]? = some c) :
    spent userId restaurantId (w.past i) = c.cost w.store userId restaurantId := by
  rw [spent_eq_sum_purchasesIn]
  have hspends := h.spends hc
  have hservice := h.started i c hc
  unfold Caller.cost
  split
  · rename_i curve today buyer couponId reply hop hresult
    rw [hop, hresult] at hspends
    obtain ⟨coupon, hshown, hpurchases⟩ := hspends
    obtain ⟨later, hlater, hprice⟩ := hcatalog.couponShown couponId coupon
      (mem_exchanges_of_mem_past hshown)
    obtain ⟨hrestaurant, hpoints⟩ := Prod.mk.inj hprice
    rw [hpurchases, Coupon.sum_purchases, hlater, ← hrestaurant, ← hpoints]
  · rename_i hother
    have hnothing : purchasesIn (w.past i) = [] := by
      cases hresult : c.result? with
      | none =>
        rw [hresult] at hspends
        exact hspends
      | some result =>
        rw [hresult] at hspends
        simp only [Operation.Spends] at hspends
        split at hspends
        · rename_i curve today buyer couponId reply hop
          exact absurd hresult (hother curve today buyer couponId reply hop)
        · rw [hservice] at hspends
          exact hspends.resolve_left Bool.false_ne_true
    rw [hnothing]
    rfl

theorem Faithful.spent_exchanges (h : Faithful (fun op => op.movesPoints = false) w)
    (hcatalog : Catalog w.exchanges w.store) (userId : UserId) (restaurantId : RestaurantId) :
    spent userId restaurantId w.exchanges = w.costs userId restaurantId := by
  rw [spent, h.sum_exchanges, costs, ← Fin.sum_univ_fun_getElem, Finset.sum_range]
  apply Finset.sum_congr rfl
  intro i _
  exact h.spent_past hcatalog userId restaurantId (List.getElem?_eq_getElem i.isLt)

/-- Whatever turns are taken by services: the stored points are the rewards paid for achievements
of the restaurant, less the price of every redemption that succeeded, and the stored experience is
that of the rewards. Neither is ever negative, and a balance is stored once a reward was paid. -/
theorem ledger_balances (turns : List Turn)
    (hservices : ∀ op, Turn.start op ∈ turns → op.movesPoints = false)
    (hfits : (run turns).store.created < 2147483647) (userId : UserId)
    (restaurantId : RestaurantId) :
    (((run turns).store.balanceOf userId restaurantId).points.toInt =
        received userId restaurantId (run turns).exchanges Reward.points -
          (run turns).costs userId restaurantId ∧
      ((run turns).store.balanceOf userId restaurantId).experience.toInt =
        received userId restaurantId (run turns).exchanges Reward.experience) ∧
    (0 ≤ ((run turns).store.balanceOf userId restaurantId).points ∧
      ((run turns).store.balanceOf userId restaurantId).points.toInt ≤ 2147483647 ∧
      0 ≤ ((run turns).store.balanceOf userId restaurantId).experience ∧
      ((run turns).store.balanceOf userId restaurantId).experience.toInt ≤ 2147483647) ∧
    ((run turns).store.balances.find? (userId, restaurantId) = none ↔
      (run turns).exchanges.any (Exchange.rewards userId restaurantId) = false) ∧
    ((run turns).store.balances.find? (userId, restaurantId) = none →
      received userId restaurantId (run turns).exchanges Reward.points = 0 ∧
      (run turns).costs userId restaurantId = 0 ∧
      received userId restaurantId (run turns).exchanges Reward.experience = 0) ∧
    ∀ p ∈ paymentsIn (run turns).exchanges,
      ∃ a ∈ offersIn (run turns).exchanges, a.id = p.achievementId ∧ a.reward = p.reward := by
  have hfaithful : Faithful (fun op => op.movesPoints = false) (run turns) :=
    faithful_run turns hservices
  have hlogged : Logged False (run turns).exchanges (run turns).store :=
    logged_run turns fun op hop hmoves => Bool.false_ne_true ((hservices op hop).symm.trans hmoves)
  have hbalanced := hlogged.balanced hfits
  have htallied := hbalanced.tallied userId restaurantId
  have hspent := hfaithful.spent_exchanges (hlogged.catalog hfits) userId restaurantId
  obtain ⟨hpoints, hexperience, hpositive, hpositive'⟩ := htallied.getD
  refine ⟨⟨?_, hexperience⟩, ⟨?_, (Amount.bounds _).2, ?_, (Amount.bounds _).2⟩, ?_, ?_,
    hbalanced.rewarded⟩
  · rw [← hspent]
    exact hpoints
  · rwa [Int32.le_iff_toInt_le]
  · rwa [Int32.le_iff_toInt_le]
  · cases hfound : (run turns).store.balances.find? (userId, restaurantId) with
    | none =>
      rw [hfound] at htallied
      simp [htallied.1]
    | some b =>
      rw [hfound] at htallied
      simp [htallied.1]
  · intro hnone
    rw [hnone] at htallied
    rw [received_eq_zero htallied.1, received_eq_zero htallied.1, ← hspent]
    exact ⟨rfl, htallied.2, rfl⟩

/-- A visit earns ten points, and two redemptions of a coupon that costs six race for them. -/
def racingRedemptions : List Turn :=
  let redeem : Turn := .start (.redeem .standard .newYear ⟨7⟩ ⟨2⟩)
  [.start (.createAchievement ⟨⟨1⟩, "Welcome", 5, 10, ⟨.visit 1, .indefinite⟩⟩), .serve 0,
    .start (.createCoupon ⟨⟨1⟩, "Tea", "One cup", 6, 0, none, none, true⟩), .serve 1,
    .start (.record .newYear ⟨7⟩ ⟨1⟩), .serve 2, .serve 2, .serve 2, .serve 2,
    .serve 2, .serve 2, redeem, redeem, .serve 3, .serve 4, .serve 3, .serve 4, .serve 3, .serve 4]

theorem racingRedemptions_balance :
    ((run racingRedemptions).store.balanceOf ⟨7⟩ ⟨1⟩).points.toInt =
      received ⟨7⟩ ⟨1⟩ (run racingRedemptions).exchanges Reward.points -
        (run racingRedemptions).costs ⟨7⟩ ⟨1⟩ ∧
    received ⟨7⟩ ⟨1⟩ (run racingRedemptions).exchanges Reward.points = 10 ∧
    (run racingRedemptions).costs ⟨7⟩ ⟨1⟩ = 6 := by
  have hservices : ∀ op, Turn.start op ∈ racingRedemptions → op.movesPoints = false := by
    simp [racingRedemptions, Operation.movesPoints]
  obtain ⟨⟨hpoints, -⟩, -⟩ := ledger_balances racingRedemptions hservices (by decide) ⟨7⟩ ⟨1⟩
  exact ⟨hpoints, by decide, by decide⟩

end World

end Loyalty
