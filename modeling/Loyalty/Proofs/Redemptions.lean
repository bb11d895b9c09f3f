import Loyalty.Proofs.Race

/-!
# Redeeming at once

Any number of callers redeem one coupon from one balance, each in its own steps, and the steps of
all fall in any order. Each of them decides on a balance that it read before, and the debit decides
again. So a caller is turned away only when the points are spent, and as many are served as the
balance pays for.
-/

namespace Loyalty

namespace Balance

/-- The balance after some debits of the same points. -/
def less (b : Balance) (points : Amount) (n : Nat) : Balance :=
  { b with points := Int32.ofInt (b.points.toInt - points.toInt * n) }

def affords (b : Balance) (points : Amount) : Nat := (b.points.toInt / points.toInt).toNat

variable {b : Balance} {points : Amount} {n : Nat}

theorem less_zero (b : Balance) (points : Amount) : b.less points 0 = b := by
  rw [less, Int.natCast_zero, Int.mul_zero, Int.sub_zero, Int32.ofInt_toInt]

theorem le_affords_iff (hheld : 0 ≤ b.points) (hcost : 0 < points) :
    n ≤ b.affords points ↔ points.toInt * n ≤ b.points.toInt := by
  rw [Int32.le_iff_toInt_le] at hheld
  rw [Int32.lt_iff_toInt_lt] at hcost
  have hquotient : 0 ≤ b.points.toInt / points.toInt := Int.ediv_nonneg hheld (Int.le_of_lt hcost)
  rw [Int.mul_comm, ← Int.le_ediv_iff_mul_le hcost, affords]
  omega

theorem toInt_less (hheld : 0 ≤ b.points) (hcost : 0 < points) (hn : n ≤ b.affords points) :
    (b.less points n).points.toInt = b.points.toInt - points.toInt * n := by
  have hle := (le_affords_iff hheld hcost).1 hn
  have hbound := Amount.bounds b.points
  rw [Int32.lt_iff_toInt_lt] at hcost
  have hspent : 0 ≤ points.toInt * n := Int.mul_nonneg (Int.le_of_lt hcost) (Int.natCast_nonneg n)
  exact Int32.toInt_ofInt_of_le (by omega) (by omega)

theorem le_less_iff (hheld : 0 ≤ b.points) (hcost : 0 < points) (hn : n ≤ b.affords points) :
    points ≤ (b.less points n).points ↔ n < b.affords points := by
  rw [Int32.le_iff_toInt_le, toInt_less hheld hcost hn]
  have hnext : n < b.affords points ↔ points.toInt * (n + 1 : Nat) ≤ b.points.toInt :=
    le_affords_iff hheld hcost
  rw [hnext, Int.natCast_add, Int.mul_add, Int.natCast_one, Int.mul_one]
  omega

theorem sub?_less (hheld : 0 ≤ b.points) (hcost : 0 < points) (hn : n < b.affords points) :
    (b.less points n).points.sub? points = some (b.less points (n + 1)).points := by
  refine Amount.ofInt?_eq_some_iff.2 ?_
  have hbefore := toInt_less hheld hcost (Nat.le_of_lt hn)
  have hafter : (b.less points (n + 1)).points.toInt =
      b.points.toInt - points.toInt * (n + 1 : Nat) := toInt_less hheld hcost hn
  rw [hafter, hbefore, Int.natCast_add, Int.mul_add, Int.natCast_one, Int.mul_one]
  omega

end Balance

/-- Where a caller stands that redeems. It did nothing yet, was shown the coupon, has read a balance
that pays, or has ended. A balance is known by the debits that were made of it. -/
inductive Bid where
  | fresh (curve : LevelCurve) (today : Date)
  | priced (curve : LevelCurve)
  | covered (seen : Nat)
  | served (count : Nat)
  | refused (seen : Nat)

namespace Bid

/-- What becomes of the debits and of a caller that is served, where `size` debits are paid for. -/
def serve (size n : Nat) : Bid → Nat × Bid
  | .fresh curve _ => (n, .priced curve)
  | .priced _ => (n, if n < size then .covered n else .refused n)
  | .covered seen => if n < size then (n + 1, .served (n + 1)) else (n, .refused seen)
  | .served count => (n, .served count)
  | .refused seen => (n, .refused seen)

def count? : Bid → Option Nat
  | .served count => some count
  | _ => none

def calls : Bid → Nat
  | .fresh .. => 0
  | .priced _ => 1
  | .covered _ => 2
  | .served _ | .refused _ => 3

def isOver : Bid → Bool
  | .fresh .. | .priced _ | .covered _ => false
  | .served _ | .refused _ => true

theorem calls_lt_serve (size n : Nat) {bid : Bid} (h : bid.isOver = false) :
    bid.calls < (bid.serve size n).2.calls := by
  cases bid with
  | fresh curve today => exact Nat.zero_lt_one
  | priced curve | covered seen =>
    simp only [serve]
    split <;> simp [calls]
  | served count | refused seen => cases h

theorem calls_lt_three {bid : Bid} (h : bid.isOver = false) : bid.calls < 3 := by
  cases bid with
  | served count | refused seen => cases h
  | _ => simp [calls]

def Entitled (c : Coupon) (b : Balance) : Bid → Prop
  | .fresh curve today => c.isRedeemableOn today = true ∧ c.level.toInt ≤ b.level curve
  | .priced curve => c.level.toInt ≤ b.level curve
  | _ => True

end Bid

/-- How a race for points stands. The callers that were served made all debits, one each, and
nobody was refused while the points were not spent. -/
structure Bids (size n : Nat) (bids : List Bid) : Prop where
  room : n ≤ size
  counts : (bids.filterMap Bid.count?).Perm (steps n)
  spent : ∀ seen, .refused seen ∈ bids → n = size

namespace Bids

variable {size n i : Nat} {bids before after : List Bid} {bid next : Bid}

/-- A caller that goes on without a debit, and is refused only where the points are spent. -/
theorem replace (h : Bids size n (before ++ bid :: after)) (hbid : bid.count? = none)
    (hnext : next.count? = none) (hrefused : ∀ seen, next = .refused seen → n = size) :
    Bids size n (before ++ next :: after) := by
  refine ⟨h.room, ?_, ?_⟩
  · have hcounts := h.counts
    rw [List.filterMap_append, List.filterMap_cons_none hbid] at hcounts
    rwa [List.filterMap_append, List.filterMap_cons_none hnext]
  · intro seen hseen
    rcases List.mem_append.1 hseen with hseen | hseen
    · exact h.spent seen (List.mem_append_left _ hseen)
    · rcases List.mem_cons.1 hseen with hseen | hseen
      · exact hrefused seen hseen.symm
      · exact h.spent seen (List.mem_append_right _ (List.mem_cons_of_mem bid hseen))

theorem debit (h : Bids size n (before ++ bid :: after)) (hbid : bid.count? = none)
    (hroom : n < size) : Bids size (n + 1) (before ++ .served (n + 1) :: after) := by
  refine ⟨hroom, ?_, ?_⟩
  · have hcounts := h.counts
    rw [List.filterMap_append, List.filterMap_cons_none hbid] at hcounts
    have hserved : (Bid.served (n + 1)).count? = some (n + 1) := rfl
    rw [List.filterMap_append, List.filterMap_cons_some hserved, steps_succ]
    refine List.Perm.trans ?_ (List.perm_append_singleton (n + 1) (steps n)).symm
    exact List.perm_middle.trans (hcounts.cons (n + 1))
  · intro seen hseen
    have hfull : n = size := by
      apply h.spent seen
      simp only [List.mem_append, List.mem_cons, reduceCtorEq, false_or] at hseen ⊢
      exact hseen.imp_right Or.inr
    omega

theorem serve (h : Bids size n bids) (hbid : bids[i]? = some bid) :
    Bids size (bid.serve size n).1 (bids.set i (bid.serve size n).2) := by
  obtain ⟨before, after, rfl, hset⟩ := exists_around hbid
  rw [hset]
  have hspent : ¬ n < size → n = size := by
    intro hfull
    have := h.room
    omega
  cases bid with
  | fresh curve today => exact h.replace rfl rfl nofun
  | priced curve =>
    by_cases hroom : n < size
    · simp only [Bid.serve, if_pos hroom]
      exact h.replace rfl rfl nofun
    · simp only [Bid.serve, if_neg hroom]
      exact h.replace rfl rfl fun _ _ => hspent hroom
  | covered seen =>
    by_cases hroom : n < size
    · simp only [Bid.serve, if_pos hroom]
      exact h.debit rfl hroom
    · simp only [Bid.serve, if_neg hroom]
      exact h.replace rfl rfl fun _ _ => hspent hroom
  | served count | refused seen => exact h

end Bids

namespace Coupons

def spend (curve : LevelCurve) (coupon : Coupon) (userId : UserId) :
    Script CouponError Balance := do
  let found ← Script.ask .store (.findBalance userId coupon.restaurantId)
  let balance := Option.getD found (.empty userId coupon.restaurantId)
  Script.require (decide (coupon.level.toInt ≤ balance.level curve))
    (.levelTooLow coupon.level (balance.level curve))
  if coupon.points = 0 then pure balance
  else do
    Script.require (decide (coupon.points ≤ balance.points))
      (.insufficientPoints coupon.points balance.points)
    pay coupon balance userId

end Coupons

def Bid.script (userId : UserId) (c : Coupon) (b : Balance) : Bid → Script CouponError Balance
  | .fresh curve today => Coupons.redeem curve today userId c.id
  | .priced curve => Coupons.spend curve c userId
  | .covered seen => Coupons.pay c (b.less c.points seen) userId
  | .served count => .done (b.less c.points count)
  | .refused seen => .fail (.insufficientPoints c.points (b.less c.points seen).points)

def Bid.rest (userId : UserId) (c : Coupon) (b : Balance) (bid : Bid) : Script Refusal Reply :=
  (bid.script userId c b).relabel .coupon .balance

namespace Memory

structure Offers (userId : UserId) (c : Coupon) (b : Balance) (s : Memory) (n : Nat) : Prop where
  offered : s.coupons.find? c.id = some c
  balance : s.balances.find? (userId, c.restaurantId) = some (b.less c.points n)

namespace Offers

variable {userId : UserId} {c : Coupon} {b : Balance} {s : Memory} {n : Nat}

theorem handle_debit (h : s.Offers userId c b n) (hheld : 0 ≤ b.points) (hcost : 0 < c.points)
    (hroom : n < b.affords c.points) :
    (handle (.debit userId c.restaurantId c.points) s).1 =
        .ok (some (b.less c.points (n + 1))) ∧
      (handle (.debit userId c.restaurantId c.points) s).2.Offers userId c b (n + 1) := by
  have hcovered : ¬ (b.less c.points n).points < c.points :=
    Int32.not_lt.2 ((Balance.le_less_iff hheld hcost (Nat.le_of_lt hroom)).2 hroom)
  have hkey : Keyed.key (b.less c.points (n + 1)) = (userId, c.restaurantId) :=
    (Table.find?_eq_some_iff.1 h.balance).2
  have hanswer : handle (.debit userId c.restaurantId c.points) s =
      (.ok (some (b.less c.points (n + 1))),
        { s with balances := s.balances.put (b.less c.points (n + 1)) }) := by
    simp only [handle, debit, h.balance, if_neg hcovered, Balance.sub?_less hheld hcost hroom]
    rfl
  rw [hanswer]
  exact ⟨rfl, h.offered, Table.find?_put_of_eq hkey⟩

theorem handle_debit_of_spent (h : s.Offers userId c b n) (hheld : 0 ≤ b.points)
    (hcost : 0 < c.points) (hn : n ≤ b.affords c.points) (hspent : ¬ n < b.affords c.points) :
    handle (.debit userId c.restaurantId c.points) s = (.ok none, s) := by
  have hshort : (b.less c.points n).points < c.points := by
    rw [← Int32.not_le, Balance.le_less_iff hheld hcost hn]
    exact hspent
  simp only [handle, debit, h.balance, if_pos hshort]

end Offers

end Memory

namespace Bid

variable {userId : UserId} {c : Coupon} {b : Balance} {s : Memory} {n : Nat}

/-- A caller that may redeem makes one request, and the answer brings it to where it stands next. -/
theorem exists_call (h : s.Offers userId c b n) (hheld : 0 ≤ b.points) (hcost : 0 < c.points)
    (hn : n ≤ b.affords c.points) {bid : Bid} (hbid : bid.Entitled c b) {r : Request}
    {next : Except StoreError r.Answer → Script CouponError Balance}
    (hcall : bid.script userId c b = .call r next) :
    next (Memory.handle r s).1 = (bid.serve (b.affords c.points) n).2.script userId c b ∧
      (Memory.handle r s).2.Offers userId c b (bid.serve (b.affords c.points) n).1 ∧
      (bid.serve (b.affords c.points) n).2.Entitled c b := by
  cases bid with
  | fresh curve today =>
    cases hcall
    obtain ⟨hlive, hlevel⟩ := hbid
    refine ⟨?_, h, hlevel⟩
    simp only [Memory.handle, h.offered]
    change (Script.require (c.isRedeemableOn today) _ >>= fun _ => Coupons.spend curve c userId) = _
    rw [hlive]
    rfl
  | priced curve =>
    cases hcall
    have hlevel : decide (c.level.toInt ≤ (b.less c.points n).level curve) = true :=
      decide_eq_true hbid
    have hprice : c.points ≠ 0 := by
      rintro hzero
      rw [hzero] at hcost
      exact Int32.lt_irrefl hcost
    simp only [Memory.handle, h.balance]
    change (Script.require (decide (c.level.toInt ≤ (b.less c.points n).level curve)) _ >>= fun _ =>
      if c.points = 0 then pure (b.less c.points n)
      else Script.require (decide (c.points ≤ (b.less c.points n).points)) _ >>= fun _ =>
        Coupons.pay c (b.less c.points n) userId) = _ ∧ _
    rw [hlevel, if_neg hprice]
    have hcovers := Balance.le_less_iff hheld hcost hn
    by_cases hroom : n < b.affords c.points
    · simp only [serve, if_pos hroom]
      rw [decide_eq_true (hcovers.2 hroom)]
      exact ⟨rfl, h, trivial⟩
    · simp only [serve, if_neg hroom]
      rw [decide_eq_false (mt hcovers.1 hroom)]
      exact ⟨rfl, h, trivial⟩
  | covered seen =>
    cases hcall
    by_cases hroom : n < b.affords c.points
    · obtain ⟨hanswer, hafter⟩ := h.handle_debit hheld hcost hroom
      simp only [serve, if_pos hroom]
      rw [hanswer]
      exact ⟨rfl, hafter, trivial⟩
    · simp only [serve, if_neg hroom]
      rw [h.handle_debit_of_spent hheld hcost hn hroom]
      exact ⟨rfl, h, trivial⟩
  | served count | refused seen => cases hcall

theorem isSome_result? {bid : Bid} : (bid.rest userId c b).result?.isSome = bid.isOver := by
  cases bid <;> rfl

def refusal? (c : Coupon) (b : Balance) : Bid → Option (Except Refusal Reply)
  | .refused seen =>
    some (.error (.coupon (.insufficientPoints c.points (b.less c.points seen).points)))
  | _ => none

theorem results_perm {bids : List Bid} (hover : ∀ x ∈ bids, x.isOver = true) :
    (bids.filterMap fun x => (x.rest userId c b).result?).Perm
      ((bids.filterMap count?).map (fun i => .ok (.balance (b.less c.points i))) ++
        bids.filterMap (refusal? c b)) := by
  induction bids with
  | nil => exact List.Perm.nil
  | cons x bids ih =>
    have ih := ih fun y hy => hover y (List.mem_cons_of_mem x hy)
    have hx := hover x List.mem_cons_self
    cases x with
    | served count => exact ih.cons _
    | refused seen => exact (ih.cons _).trans List.perm_middle.symm
    | _ => cases hx

theorem mem_refusals {bids : List Bid} {x : Except Refusal Reply}
    (hx : x ∈ bids.filterMap (refusal? c b)) :
    (∃ seen, .refused seen ∈ bids) ∧
      ∃ available, x = .error (.coupon (.insufficientPoints c.points available)) := by
  obtain ⟨bid, hbid, hrefusal⟩ := List.mem_filterMap.1 hx
  cases bid with
  | refused seen =>
    cases hrefusal
    exact ⟨⟨seen, hbid⟩, _, rfl⟩
  | _ => cases hrefusal

end Bid

structure Memory.SparesOffer (userId : UserId) (c : Coupon) (s s' : Memory) : Prop where
  coupons : s'.coupons.find? c.id = s.coupons.find? c.id
  balances : s'.balances.find? (userId, c.restaurantId) =
    s.balances.find? (userId, c.restaurantId)

structure Bidding (userId : UserId) (c : Coupon) (b : Balance) (s : Memory) (n : Nat)
    (bids : List Bid) : Prop where
  offers : s.Offers userId c b n
  standing : Bids (b.affords c.points) n bids
  entitled : ∀ x ∈ bids, x.Entitled c b

namespace Bidding

variable {userId : UserId} {c : Coupon} {b : Balance} {s s' : Memory} {n : Nat} {bids : List Bid}

theorem spared (h : Bidding userId c b s n bids) (hs : s.SparesOffer userId c s') :
    Bidding userId c b s' n bids where
  offers := ⟨hs.coupons.trans h.offers.offered, hs.balances.trans h.offers.balance⟩
  standing := h.standing
  entitled := h.entitled

theorem serve (h : Bidding userId c b s n bids) (hheld : 0 ≤ b.points) (hcost : 0 < c.points)
    {i : Nat} {bid : Bid} {r : Request}
    {next : Except StoreError r.Answer → Script Refusal Reply} (hbid : bids[i]? = some bid)
    (hcall : bid.rest userId c b = .call r next) :
    ∃ bid', next (Memory.handle r s).1 = bid'.rest userId c b ∧ bid.calls < bid'.calls ∧
      ∃ n', Bidding userId c b (Memory.handle r s).2 n' (bids.set i bid') := by
  have hover : bid.isOver = false := by
    have hsome : (bid.rest userId c b).result?.isSome = bid.isOver := Bid.isSome_result?
    rw [← hsome, hcall]
    rfl
  have hentitled := h.entitled bid (List.mem_of_getElem? hbid)
  cases hscript : bid.script userId c b with
  | done balance | fail e =>
    rw [Bid.rest, hscript] at hcall
    cases hcall
  | call r' next' =>
    rw [Bid.rest, hscript] at hcall
    cases hcall
    obtain ⟨hnext, hoffers, hentitled'⟩ :=
      Bid.exists_call h.offers hheld hcost h.standing.room hentitled hscript
    refine ⟨_, congrArg (Script.relabel Refusal.coupon Reply.balance) hnext,
      Bid.calls_lt_serve (b.affords c.points) n hover, _, hoffers, h.standing.serve hbid, ?_⟩
    intro x hx
    rcases List.mem_or_eq_of_mem_set hx with hx | rfl
    · exact h.entitled x hx
    · exact hentitled'

theorem gather {attempts : List (LevelCurve × Date)} (hcoupon : s.coupons.find? c.id = some c)
    (hbalance : s.balances.find? (userId, c.restaurantId) = some b)
    (hattempts : ∀ x ∈ attempts, c.isRedeemableOn x.2 = true ∧ c.level.toInt ≤ b.level x.1) :
    Bidding userId c b s 0 (attempts.map fun x => .fresh x.1 x.2) where
  offers := ⟨hcoupon, by rw [Balance.less_zero, hbalance]⟩
  standing := by
    refine ⟨Nat.zero_le _, ?_, ?_⟩
    · have hnone : (attempts.map fun x => Bid.fresh x.1 x.2).filterMap Bid.count? = [] := by
        rw [List.filterMap_eq_nil_iff]
        intro bid hbid
        obtain ⟨x, -, rfl⟩ := List.mem_map.1 hbid
        rfl
      rw [hnone]
      exact List.Perm.nil
    · intro seen hseen
      obtain ⟨x, -, hx⟩ := List.mem_map.1 hseen
      cases hx
  entitled := by
    intro bid hbid
    obtain ⟨x, hx, rfl⟩ := List.mem_map.1 hbid
    exact hattempts x hx

/-- A race for points ends when the points are spent, or with nobody refused. -/
theorem ended (h : Bidding userId c b s n bids) (hover : ∀ x ∈ bids, x.isOver = true) :
    n = min bids.length (b.affords c.points) ∧
      (bids.filterMap (Bid.refusal? c b)).length = bids.length - n ∧
      (bids.filterMap fun x => (x.rest userId c b).result?).Perm
        ((steps n).map (fun i => .ok (.balance (b.less c.points i))) ++
          bids.filterMap (Bid.refusal? c b)) := by
  have hperm : (bids.filterMap fun x => (x.rest userId c b).result?).Perm
      ((steps n).map (fun i => .ok (.balance (b.less c.points i))) ++
        bids.filterMap (Bid.refusal? c b)) :=
    (Bid.results_perm hover).trans ((h.standing.counts.map _).append_right _)
  have hall : ∀ x ∈ bids, (x.rest userId c b).result?.isSome := by
    intro x hx
    rw [Bid.isSome_result?]
    exact hover x hx
  have hlength := hperm.length_eq
  rw [List.filterMap_length_eq_length.2 hall, List.length_append, List.length_map,
    length_steps] at hlength
  have hroom := h.standing.room
  refine ⟨?_, by omega, hperm⟩
  cases hrefusals : bids.filterMap (Bid.refusal? c b) with
  | nil =>
    rw [hrefusals, List.length_nil] at hlength
    omega
  | cons x refusals =>
    have hx : x ∈ bids.filterMap (Bid.refusal? c b) := by
      rw [hrefusals]
      exact List.mem_cons_self
    obtain ⟨⟨seen, hseen⟩, -⟩ := Bid.mem_refusals hx
    have hspent := h.standing.spent seen hseen
    omega

end Bidding

namespace World

variable {s : Memory} {userId : UserId} {c : Coupon} {b : Balance}
  {attempts : List (LevelCurve × Date)} {w : World}

/-- Callers that redeem a coupon are found, after whatever interleaving of their steps, to have made
at most three calls each; and when all have ended, as many were served as the balance pays for, each
told of a balance of its own, and only the others were refused, for want of points. -/
theorem racing_redemptions (hcoupon : s.coupons.find? c.id = some c) (hcost : 0 < c.points)
    (hbalance : s.balances.find? (userId, c.restaurantId) = some b) (hheld : 0 ≤ b.points)
    (hattempts : ∀ x ∈ attempts, c.isRedeemableOn x.2 = true ∧ c.level.toInt ≤ b.level x.1)
    (hw : (gather s (attempts.map fun x => .redeem x.1 x.2 userId c.id)).Interleaving
      (Memory.SparesOffer userId c) w) :
    let n := min attempts.length (b.points.toInt / c.points.toInt).toNat
    (∀ i c, w.callers[i]? = some c → c.result? = none → (w.past i).length < 3) ∧
    (∀ i ≤ n, (b.less c.points i).points.toInt = b.points.toInt - c.points.toInt * i ∧
      (b.less c.points i).experience = b.experience) ∧
    (w.IsOver →
      w.store.balances.find? (userId, c.restaurantId) = some (b.less c.points n) ∧
      ∃ refusals, refusals.length = attempts.length - n ∧
        (∀ x ∈ refusals, ∃ available,
          x = .error (.coupon (.insufficientPoints c.points available))) ∧
        w.results.Perm
          ((steps n).map (fun i => .ok (.balance (b.less c.points i))) ++ refusals)) := by
  have hgathered : (gather s (attempts.map fun x => .redeem x.1 x.2 userId c.id)).Staged
      (Bid.rest userId c b) Bid.calls (attempts.map fun x => .fresh x.1 x.2) := by
    apply Staged.gather
    rw [List.map_map, List.map_map]
    rfl
  have hends := hgathered.interleaving
    (P := fun s bids => ∃ n, Bidding userId c b s n bids) ⟨0, .gather hcoupon hbalance hattempts⟩
    ?_ ?_ hw
  · obtain ⟨bids, hstaged, n, hbidding⟩ := hends
    refine ⟨?_, ?_, fun hover => ?_⟩
    · intro i caller hc hresult
      apply hstaged.calls_lt _ hc hresult
      intro bid hbid
      apply Bid.calls_lt_three
      rw [← Bid.isSome_result?, hbid]
      rfl
    · intro i hi
      exact ⟨Balance.toInt_less hheld hcost (Nat.le_trans hi (Nat.min_le_right _ _)), rfl⟩
    · have hall : ∀ x ∈ bids, x.isOver = true := by
        intro x hx
        rw [← Bid.isSome_result?]
        exact hstaged.isSome_of_isOver hover x hx
      have hlength : bids.length = attempts.length := by
        rw [hstaged.length_eq, hw.length_callers, gather, List.length_map, List.length_map]
      obtain ⟨hn, hrefused, hperm⟩ := hbidding.ended hall
      rw [← hstaged.results_eq, hn, hlength] at hperm
      rw [hn, hlength] at hrefused
      have hbalance' := hbidding.offers.balance
      rw [hn, hlength] at hbalance'
      exact ⟨hbalance', _, hrefused, fun x hx => (Bid.mem_refusals hx).2, hperm⟩
  · rintro s bids i bid r next ⟨n, h⟩ hbid hcall
    exact h.serve hheld hcost hbid hcall
  · rintro s s' bids ⟨n, h⟩ hs
    exact ⟨n, h.spared hs⟩

def cup : Coupon := ⟨⟨1⟩, ⟨1⟩, "Tea", "One cup", 3, 0, .indefinite, false⟩

def cupStore : Memory :=
  { Memory.empty with
    coupons := Table.empty.put cup
    balances := Table.empty.put ⟨⟨7⟩, ⟨1⟩, 7, 20⟩ }

def cupAttempts : List (LevelCurve × Date) := List.replicate 3 (.standard, .newYear)

/-- Three callers race for two cups. All of them have read seven points before the first debit. -/
def threeCups : World :=
  [0, 1, 2, 0, 1, 2, 0, 1, 2].foldl (fun w i => w.take (.serve i))
    (gather cupStore (cupAttempts.map fun x => .redeem x.1 x.2 ⟨7⟩ cup.id))

theorem threeCups_serves_two :
    threeCups.store.balances.find? (⟨7⟩, ⟨1⟩) = some ⟨⟨7⟩, ⟨1⟩, 1, 20⟩ ∧
      ∃ refusals, refusals.length = 1 ∧
        (∀ x ∈ refusals, ∃ available, x = .error (.coupon (.insufficientPoints 3 available))) ∧
        threeCups.results.Perm
          ([.ok (.balance ⟨⟨7⟩, ⟨1⟩, 4, 20⟩), .ok (.balance ⟨⟨7⟩, ⟨1⟩, 1, 20⟩)] ++ refusals) := by
  have hover : threeCups.IsOver := by
    unfold IsOver
    decide
  have hattempts : ∀ x ∈ cupAttempts, cup.isRedeemableOn x.2 = true ∧
      cup.level.toInt ≤ (⟨⟨7⟩, ⟨1⟩, 7, 20⟩ : Balance).level x.1 := by
    intro x hx
    rw [List.eq_of_mem_replicate hx]
    decide
  have hbalance : cupStore.balances.find? (⟨7⟩, cup.restaurantId) = some ⟨⟨7⟩, ⟨1⟩, 7, 20⟩ := rfl
  obtain ⟨-, -, hends⟩ := racing_redemptions rfl (by decide) hbalance (by decide) hattempts
    (interleaving_foldl _ _ [0, 1, 2, 0, 1, 2, 0, 1, 2])
  exact hends hover

end World

end Loyalty
