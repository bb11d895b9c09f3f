import Loyalty.Proofs.Decisions

/-!
# What is told of a shortfall

A redemption that is refused for its points tells the points that it has read. Where those do not
cover the cost, the redemption is refused at once. Where they do, the debit decides again: it is
refused if others have spent the points since, and the points that are told are then the ones that
were read before, which cover the cost, and not the ones that are left.
-/

namespace Loyalty

open Memory

namespace Memory

def pointsOf (s : Memory) (userId : UserId) (restaurantId : RestaurantId) : Amount :=
  (s.balanceOf userId restaurantId).points

theorem Change.points_le {s s' : Memory} {x : Exchange} {userId : UserId}
    {restaurantId : RestaurantId} (h : s.Change x s') (hgives : x.Gives)
    (hkept : ¬ x.TakesFrom userId restaurantId) :
    s.pointsOf userId restaurantId ≤ s'.pointsOf userId restaurantId := by
  obtain ⟨-, -, hpoints⟩ := (h.balance userId restaurantId).holds hgives
  exact hpoints hkept

/-- A debit that takes nothing was not covered. -/
theorem points_lt_of_debit {s : Memory} {userId : UserId} {restaurantId : RestaurantId}
    {points : Amount} (hcost : 0 < points)
    (h : (handle (.debit userId restaurantId points) s).1 = .ok none) :
    s.pointsOf userId restaurantId < points := by
  simp only [handle, debit] at h
  cases hfound : s.balances.find? (userId, restaurantId) with
  | none =>
    rw [pointsOf, balanceOf, hfound]
    exact hcost
  | some b =>
    rw [pointsOf, balanceOf, hfound, Option.getD_some]
    by_contra hcovered
    simp only [hfound, if_neg hcovered] at h
    split at h <;> cases h

end Memory

theorem Logged.isFair {direct : Prop} {past : List Exchange} {s : Memory} (h : Logged direct past s)
    {id : AchievementId} {a : Achievement} (hfound : s.achievements.find? id = some a) :
    a.IsFair := by
  induction h generalizing id a with
  | empty => cases hfound
  | answered _ hreason hanswer ih =>
    exact hanswer.change.isFair (hreason.imp_left And.right) (fun _ _ => ih) hfound

theorem Logged.isFair_of_shown {direct : Prop} {past : List Exchange} {s : Memory}
    (h : Logged direct past s) {id : AchievementId} {a : Achievement}
    (hshown : (⟨.findAchievement id, .ok (some a)⟩ : Exchange) ∈ past) : a.IsFair := by
  induction h with
  | empty => cases hshown
  | answered hearlier _ hanswer ih =>
    rcases List.mem_cons.1 hshown with heq | hshown
    · cases heq
      exact hearlier.isFair hanswer.achievement
    · exact ih hshown

namespace Coupons

/-- What a redemption has seen that is refused for its points: a balance that does not cover the
cost, or one that covers it and a debit that was refused. -/
inductive Shortfall (userId : UserId) (id : CouponId) (coupon : Coupon) (found : Option Balance) :
    List Exchange → Prop
  | read (hshort : (found.getD (.empty userId coupon.restaurantId)).points < coupon.points) :
      Shortfall userId id coupon found [⟨.findBalance userId coupon.restaurantId, .ok found⟩,
        ⟨.findCoupon id, .ok (some coupon)⟩]
  | refused (hcost : coupon.points ≠ 0)
      (hcovered : coupon.points ≤ (found.getD (.empty userId coupon.restaurantId)).points) :
      Shortfall userId id coupon found
        [⟨.debit userId coupon.restaurantId coupon.points, .ok none⟩,
          ⟨.findBalance userId coupon.restaurantId, .ok found⟩,
          ⟨.findCoupon id, .ok (some coupon)⟩]

def Explained (userId : UserId) (id : CouponId) (past : List Exchange) :
    Except CouponError Balance → Prop
  | .error (.insufficientPoints required available) =>
    ∃ coupon found, coupon.points = required ∧
      (found.getD (.empty userId coupon.restaurantId)).points = available ∧
      Shortfall userId id coupon found past
  | _ => True

theorem keeps_explained (curve : LevelCurve) (today : Date) (userId : UserId) (id : CouponId) :
    (redeem curve today userId id).Keeps (fun _ _ => True) (Explained userId id) [] := by
  refine ⟨trivial, ?_⟩
  rintro (e | _ | coupon) _
  · trivial
  · trivial
  · refine Script.Keeps.require (fun _ => ⟨trivial, ?_⟩) fun _ => trivial
    rintro (e | found) _
    · trivial
    · refine Script.Keeps.require (fun _ => ?_) fun _ => trivial
      split
      · trivial
      · rename_i hcost
        refine Script.Keeps.require (fun hcovered => ⟨trivial, ?_⟩) fun hshort => ?_
        · rintro (e | _ | rest) _
          · trivial
          · exact ⟨coupon, found, rfl, rfl, .refused hcost (of_decide_eq_true hcovered)⟩
          · trivial
        · exact ⟨coupon, found, rfl, rfl, .read (Int32.not_le.1 (of_decide_eq_false hshort))⟩

end Coupons

namespace Operation

def Gives : Operation → Prop
  | .credit _ _ points experience => 0 ≤ points.toInt ∧ 0 ≤ experience.toInt
  | _ => True

def CreditsOwn (op : Operation) (_ : List Exchange) (r : Request) : Prop :=
  ∀ userId restaurantId points experience,
    r = .credit userId restaurantId points experience →
      op = .credit userId restaurantId points experience

theorem keeps_creditsOwn (op : Operation) :
    op.script.Keeps op.CreditsOwn (fun _ _ => True) [] := by
  cases op with
  | credit userId restaurantId points experience =>
    refine ⟨fun _ _ _ _ hr => ?_, ?_⟩
    · cases hr
      rfl
    · rintro (e | balance) _ <;> trivial
  | debit userId restaurantId points =>
    refine ⟨fun _ _ _ _ hr => (nomatch hr), ?_⟩
    rintro (e | _ | balance) _ <;> trivial
  | _ =>
    refine (keeps_script _).mono (fun past r hr => ?_) fun _ _ _ => trivial
    rintro _ _ _ _ rfl
    rcases hr.2 with ⟨hmoves, -⟩ | hreason
    · cases hmoves
    · exact hreason.elim

def Explained : Operation → List Exchange → Except Refusal Reply → Prop
  | .redeem _ _ userId id, past, .error (.coupon e) => Coupons.Explained userId id past (.error e)
  | _, _, _ => True

theorem keeps_explained (op : Operation) :
    op.script.Keeps (fun _ _ => True) op.Explained [] := by
  cases op with
  | redeem curve today userId id =>
    rw [script, Script.keeps_relabel]
    refine (Coupons.keeps_explained curve today userId id).mono (fun _ _ h => h) ?_
    rintro past (e | balance) h
    · exact h
    · trivial
  | _ => exact Script.keeps_of_forall (fun _ _ => trivial) (fun _ _ => trivial) _ _

end Operation

namespace World

theorem past_take (w : World) (t : Turn) (i : Nat) :
    (w.take t).past i = w.past i ∨
      ∃ r a, (w.take t).past i = ⟨r, a⟩ :: w.past i ∧
        (a = (handle r w.store).1 ∨ ∃ fault, t = .disturb i fault ∧ fault.answer? r = some a) := by
  cases t with
  | start op => exact Or.inl rfl
  | serve j =>
    rw [take]
    rcases w.exchange_cases j _ with hsame | ⟨op, r, next, a, s, -, ha, heq⟩
    · rw [hsame]
      exact Or.inl rfl
    · rw [heq, past_cons]
      split
      · exact Or.inr ⟨r, a, rfl, Or.inl (congrArg Prod.fst (Option.some.inj ha)).symm⟩
      · exact Or.inl rfl
  | disturb j fault =>
    rw [take]
    rcases w.exchange_cases j _ with hsame | ⟨op, r, next, a, s, -, ha, heq⟩
    · rw [hsame]
      exact Or.inl rfl
    · rw [heq, past_cons]
      split
      · rename_i hij
        obtain ⟨b, hb, hab⟩ := Option.map_eq_some_iff.1 ha
        cases hab
        exact Or.inr ⟨r, a, rfl, Or.inr ⟨fault, by rw [hij], hb⟩⟩
      · exact Or.inl rfl

/-- Where no fault answers that there is nothing, what a caller was answered last is what the store
has answered at some point of the run. -/
theorem exists_served {turns : List Turn} (hpresent : ∀ i, Turn.disturb i .absent ∉ turns) {i : Nat}
    {r : Request} {a : r.Answer} {past : List Exchange}
    (h : (run turns).past i = ⟨r, .ok a⟩ :: past) :
    ∃ before, before <+: turns ∧ (run before).past i = past ∧
      (handle r (run before).store).1 = .ok a := by
  induction turns using List.reverseRecOn with
  | nil => cases h
  | append_singleton turns t ih =>
    rw [run_append] at h
    rcases past_take (run turns) t i with hsame | ⟨r', a', heq, hanswer⟩
    · rw [hsame] at h
      obtain ⟨before, hbefore, hrest⟩ := ih (fun j hj => hpresent j (List.mem_append_left _ hj)) h
      exact ⟨before, hbefore.trans (List.prefix_append _ _), hrest⟩
    · rw [heq] at h
      cases h
      refine ⟨turns, List.prefix_append _ _, rfl, ?_⟩
      rcases hanswer with hserved | ⟨fault, rfl, hfault⟩
      · exact hserved.symm
      · cases fault with
        | failure e => cases hfault
        | absent => exact absurd (List.mem_append_right _ List.mem_cons_self) (hpresent i)

section Between

variable {w w' : World} {userId : UserId} {restaurantId : RestaurantId}

/-- Between two worlds, in the order of time, points get fewer only by an event that takes them. -/
def SpentBetween (userId : UserId) (restaurantId : RestaurantId) (w w' : World) : Prop :=
  ∃ between, w'.history = between ++ w.history ∧
    (w'.store.pointsOf userId restaurantId < w.store.pointsOf userId restaurantId →
      ∃ e ∈ between, e.exchange.TakesFrom userId restaurantId)

theorem SpentBetween.refl (w : World) : SpentBetween userId restaurantId w w :=
  ⟨[], rfl, fun hlt => absurd hlt Int32.lt_irrefl⟩

theorem SpentBetween.trans {w'' : World} (h : SpentBetween userId restaurantId w w')
    (h' : SpentBetween userId restaurantId w' w'') : SpentBetween userId restaurantId w w'' := by
  obtain ⟨earlier, hearlier, hspent⟩ := h
  obtain ⟨later, hlater, hspent'⟩ := h'
  refine ⟨later ++ earlier, by rw [hlater, hearlier, List.append_assoc], fun hlt => ?_⟩
  by_cases hdrop : w'.store.pointsOf userId restaurantId < w.store.pointsOf userId restaurantId
  · obtain ⟨e, he, htakes⟩ := hspent hdrop
    exact ⟨e, List.mem_append_right _ he, htakes⟩
  · obtain ⟨e, he, htakes⟩ := hspent' (Int32.lt_of_lt_of_le hlt (Int32.not_lt.1 hdrop))
    exact ⟨e, List.mem_append_left _ he, htakes⟩

theorem gives_of_asks {turns : List Turn} (hops : ∀ op, Turn.start op ∈ turns → op.Gives) {i : Nat}
    {op : Operation} {r : Request} {next : Except StoreError r.Answer → Script Refusal Reply}
    (hcaller : (run turns).callers[i]? = some ⟨op, .call r next⟩)
    (answer : Except StoreError r.Answer) : Exchange.Gives ⟨r, answer⟩ := by
  have hfaithful := faithful_run turns hops
  have hlogged : Logged True (run turns).exchanges (run turns).store :=
    logged_run turns fun _ _ _ => trivial
  constructor
  · intro p hp
    obtain ⟨row, reward, hx, rfl⟩ := Exchange.payment?_eq_some_iff.1 hp
    cases hx
    rcases (hfaithful.keeps i _ hcaller).1.2 with ⟨-, hmoves⟩ | ⟨a, hshown, hreward⟩
    · cases hmoves
    · rw [hreward]
      exact hlogged.isFair_of_shown (mem_exchanges_of_mem_past hshown)
  · rintro userId restaurantId points experience balance heq
    cases heq
    obtain rfl : op = _ :=
      ((Abides.run Operation.keeps_creditsOwn turns).keeps i _ hcaller).1 _ _ _ _ rfl
    exact hfaithful.started i _ hcaller

theorem spentBetween_step {turns : List Turn} (hops : ∀ op, Turn.start op ∈ turns → op.Gives)
    (hstep : (run turns).Step Operation.Gives w') :
    SpentBetween userId restaurantId (run turns) w' := by
  cases hstep with
  | idle => exact .refl _
  | start => exact ⟨[], rfl, fun hlt => absurd hlt Int32.lt_irrefl⟩
  | exchange hcaller hanswer =>
    refine ⟨[_], rfl, fun hlt => ⟨_, List.mem_cons_self, ?_⟩⟩
    by_contra hkept
    refine absurd hlt (Int32.not_lt.2 ?_)
    exact hanswer.change.points_le (gives_of_asks hops hcaller _) hkept

theorem spentBetween_run {before later : List Turn}
    (hops : ∀ op, Turn.start op ∈ before ++ later → op.Gives) :
    SpentBetween userId restaurantId (run before) (run (before ++ later)) :=
  later_run .refl (fun _ _ _ => .trans) (fun _ _ => spentBetween_step) hops

end Between

/-- How a redemption comes to be refused for its points. The points that it tells were stored when
it was about to read the balance. Either they do not cover the cost, and no debit was asked for; or
they do, but those that were stored when it was about to make the debit no longer did. Where no
credit takes anything away, another caller has taken points in between. -/
inductive Told (turns : List Turn) (i : Nat) (userId : UserId) (id : CouponId) (coupon : Coupon)
    (available : Amount) : Prop
  | short {read : List Turn} {found : Option Balance} (hread : read <+: turns)
      (hshown : (run read).past i = [⟨.findCoupon id, .ok (some coupon)⟩])
      (hstored : (run read).store.pointsOf userId coupon.restaurantId = available)
      (hseen : (run turns).past i =
        ⟨.findBalance userId coupon.restaurantId, .ok found⟩ :: (run read).past i)
      (hshort : available < coupon.points)
  | outspent {read refused : List Turn} {found : Option Balance} (hread : read <+: refused)
      (hrefused : refused <+: turns)
      (hshown : (run read).past i = [⟨.findCoupon id, .ok (some coupon)⟩])
      (hstored : (run read).store.pointsOf userId coupon.restaurantId = available)
      (hseen : (run refused).past i =
        ⟨.findBalance userId coupon.restaurantId, .ok found⟩ :: (run read).past i)
      (hcovered : coupon.points ≤ available)
      (hleft : (run refused).store.pointsOf userId coupon.restaurantId < coupon.points)
      (hdebit : (run turns).past i =
        ⟨.debit userId coupon.restaurantId coupon.points, .ok none⟩ :: (run refused).past i)
      (hspent : (∀ op, Turn.start op ∈ turns → op.Gives) →
        ∃ between, (run refused).history = between ++ (run read).history ∧
          ∃ e ∈ between, e.caller ≠ i ∧ e.exchange.TakesFrom userId coupon.restaurantId)

section Told

variable {turns : List Turn} {i : Nat} {userId : UserId} {id : CouponId} {coupon : Coupon}
  {found : Option Balance} {available : Amount}

theorem cost_pos (hpresent : ∀ i, Turn.disturb i .absent ∉ turns)
    (hshown : (run turns).past i = [⟨.findCoupon id, .ok (some coupon)⟩])
    (hcost : coupon.points ≠ 0) : 0 < coupon.points := by
  obtain ⟨before, -, -, hserved⟩ := exists_served hpresent hshown
  have hlogged : Logged True (run before).exchanges (run before).store :=
    logged_run before fun _ _ _ => trivial
  exact Amount.pos_of_ne_zero (hlogged.points_nonneg (Except.ok.inj hserved)) hcost

theorem pointsOf_of_served {s : Memory} {restaurantId : RestaurantId}
    (h : (handle (.findBalance userId restaurantId) s).1 = .ok found) :
    s.pointsOf userId restaurantId = (found.getD (.empty userId restaurantId)).points := by
  cases h
  rfl

/-- Whoever has taken points since is another caller than the one that only reads. -/
theorem exists_taker {read refused : List Turn} {restaurantId : RestaurantId}
    (hops : ∀ op, Turn.start op ∈ refused → op.Gives) (hread : read <+: refused)
    (hless : (run refused).store.pointsOf userId restaurantId <
      (run read).store.pointsOf userId restaurantId)
    (hreads : ∀ x ∈ (run refused).past i, ¬ x.TakesFrom userId restaurantId) :
    ∃ between, (run refused).history = between ++ (run read).history ∧
      ∃ e ∈ between, e.caller ≠ i ∧ e.exchange.TakesFrom userId restaurantId := by
  obtain ⟨later, rfl⟩ := hread
  obtain ⟨between, hhistory, hspent⟩ := spentBetween_run hops
  obtain ⟨e, he, htakes⟩ := hspent hless
  refine ⟨between, hhistory, e, he, ?_, htakes⟩
  intro hcaller
  refine hreads e.exchange (List.mem_map.2 ⟨e, List.mem_filter.2 ⟨?_, ?_⟩, rfl⟩) htakes
  · rw [hhistory]
    exact List.mem_append_left _ he
  · exact decide_eq_true hcaller

theorem told_of_shortfall (hpresent : ∀ i, Turn.disturb i .absent ∉ turns)
    (h : Coupons.Shortfall userId id coupon found ((run turns).past i)) :
    Told turns i userId id coupon (found.getD (.empty userId coupon.restaurantId)).points := by
  generalize hpast : (run turns).past i = past at h
  cases h with
  | read hshort =>
    obtain ⟨read, hread, hshown, hserved⟩ := exists_served hpresent hpast
    exact .short hread hshown (pointsOf_of_served hserved) (hpast.trans (by rw [hshown])) hshort
  | refused hcost hcovered =>
    obtain ⟨refused, hrefused, hseen, hdebit⟩ := exists_served hpresent hpast
    have hpresent' : ∀ i, Turn.disturb i .absent ∉ refused :=
      fun i hi => hpresent i (hrefused.subset hi)
    obtain ⟨read, hread, hshown, hserved⟩ := exists_served hpresent' hseen
    have hpositive : 0 < coupon.points :=
      cost_pos (fun i hi => hpresent' i (hread.subset hi)) hshown hcost
    have hstored := pointsOf_of_served hserved
    have hleft := points_lt_of_debit hpositive hdebit
    refine .outspent hread hrefused hshown hstored (hseen.trans (by rw [hshown])) hcovered hleft
      (hpast.trans (by rw [hseen])) fun hops => ?_
    apply exists_taker (fun op hop => hops op (hrefused.subset hop)) hread
    · rw [hstored]
      exact Int32.lt_of_lt_of_le hleft hcovered
    · rw [hseen]
      simp [Exchange.TakesFrom, Exchange.purchase?]

end Told

/-- Where no fault answers that there is nothing: what a redemption tells that is refused for its
points is the cost of the coupon and the points that were stored when it was about to read the
balance; it is refused because those do not cover the cost, or because others have spent them
before the debit. -/
theorem shortfall_explained {turns : List Turn} (hpresent : ∀ i, Turn.disturb i .absent ∉ turns)
    {i : Nat} {c : Caller} {curve : LevelCurve} {today : Date} {userId : UserId} {id : CouponId}
    {required available : Amount} (hcaller : (run turns).callers[i]? = some c)
    (hop : c.op = .redeem curve today userId id)
    (hresult : c.result? = some (.error (.coupon (.insufficientPoints required available)))) :
    ∃ coupon : Coupon, coupon.points = required ∧ Told turns i userId id coupon available := by
  have hends := (Abides.run Operation.keeps_explained turns).ends_of_result hcaller hresult
  rw [hop] at hends
  obtain ⟨coupon, found, hcost, hread, hshortfall⟩ := hends
  exact ⟨coupon, hcost, hread ▸ told_of_shortfall hpresent hshortfall⟩

/-- The points are spent between the read and the debit of another redemption. -/
def outspent : List Turn :=
  gatePassed ++
    [.start (.redeem .standard .newYear ⟨7⟩ ⟨2⟩), .serve 4, .serve 4, .serve 3, .serve 4]

theorem outspent_result : (run outspent).callers[4]?.bind Caller.result? =
    some (.error (.coupon (.insufficientPoints 6 10))) := by
  decide

theorem outspent_explained :
    ∃ coupon : Coupon, coupon.points = 6 ∧ Told outspent 4 ⟨7⟩ ⟨2⟩ coupon 10 := by
  have hpresent : ∀ i, Turn.disturb i .absent ∉ outspent := by simp [outspent, gatePassed]
  obtain ⟨c, hc, hresult⟩ := Option.bind_eq_some_iff.1 outspent_result
  exact shortfall_explained hpresent hc (by cases hc; rfl) hresult

/-- So the points that are told may well cover the cost, and every answer is that of the store. -/
theorem outspent_told_enough :
    ¬ ∀ (turns : List Turn), (∀ i fault, Turn.disturb i fault ∉ turns) →
      ∀ (i : Nat) (c : Caller) (required available : Amount),
        (run turns).callers[i]? = some c →
        c.result? = some (.error (.coupon (.insufficientPoints required available))) →
          available < required := by
  intro h
  have hundisturbed : ∀ i fault, Turn.disturb i fault ∉ outspent := by simp [outspent, gatePassed]
  obtain ⟨c, hc, hresult⟩ := Option.bind_eq_some_iff.1 outspent_result
  exact absurd (h outspent hundisturbed 4 c 6 10 hc hresult) (by decide)

end World

end Loyalty
