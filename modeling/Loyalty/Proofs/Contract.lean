import Loyalty.Proofs.Exchange

/-!
# What operations ask for, and what they tell

Every operation makes its requests for reasons that it has seen: it starts a row with the target of
an achievement that it was shown, pays the reward of one, and takes the price of a coupon. It asks
nothing more once it has paid or was paid, and in the end tells exactly that.
-/

namespace Loyalty

def paymentsIn (past : List Exchange) : List Payment := past.filterMap Exchange.payment?

def purchasesIn (past : List Exchange) : List Purchase := past.filterMap Exchange.purchase?

def Coupon.purchases (c : Coupon) (userId : UserId) : List Purchase :=
  if c.points = 0 then [] else [⟨userId, c.restaurantId, c.points⟩]

/-- The reason of a request, among the exchanges before it. -/
def Request.Justified (past : List Exchange) : Request → Prop
  | .createUser input => input.email ≠ ""
  | .createCoupon input => ∃ form : CouponForm, form.validate = .ok input
  | .createAchievement input => input.report.verdict = .ok ()
  | .createProgress achievementId _ total =>
    ∃ achievement, (⟨.findAchievement achievementId, .ok (some achievement)⟩ : Exchange) ∈ past ∧
      total = achievement.target
  | .complete row reward =>
    ∃ achievement,
      (⟨.findAchievement row.achievementId, .ok (some achievement)⟩ : Exchange) ∈ past ∧
        reward = achievement.reward
  | .debit _ restaurantId points =>
    ∃ id coupon, (⟨.findCoupon id, .ok (some coupon)⟩ : Exchange) ∈ past ∧
      restaurantId = coupon.restaurantId ∧ points = coupon.points
  | .credit .. => False
  | _ => True

def Request.movesPoints : Request → Bool
  | .credit .. => true
  | .debit .. => true
  | _ => false

def Unpaid (past : List Exchange) : Prop := paymentsIn past = [] ∧ purchasesIn past = []

namespace Operation

def payment? : Operation → Except Refusal Reply → Option Payment
  | .complete row, .ok (.reward reward) => some ⟨row.userId, row.achievementId, reward⟩
  | _, .ok (.outcome (.completed userId achievementId reward)) =>
    some ⟨userId, achievementId, reward⟩
  | _, _ => none

/-- A redemption that succeeds took the price of its coupon; nothing else that services do takes
anything. -/
def Spends : Operation → List Exchange → Except Refusal Reply → Prop
  | .redeem _ _ userId couponId, past, .ok _ =>
    ∃ coupon, (⟨.findCoupon couponId, .ok (some coupon)⟩ : Exchange) ∈ past ∧
      purchasesIn past = coupon.purchases userId
  | op, past, _ => op.movesPoints = true ∨ purchasesIn past = []

def Asks (op : Operation) (past : List Exchange) (r : Request) : Prop :=
  Unpaid past ∧ (op.movesPoints = true ∧ r.movesPoints = true ∨ r.Justified past)

def Ends (op : Operation) (past : List Exchange) (result : Except Refusal Reply) : Prop :=
  paymentsIn past = (op.payment? result).toList ∧ op.Spends past result

end Operation

/-- A service asks for a reason, and nothing more after a payment. -/
def AsksWell (past : List Exchange) (r : Request) : Prop := Unpaid past ∧ r.Justified past

def Settled (told : List Payment) (past : List Exchange) : Prop :=
  paymentsIn past = told ∧ purchasesIn past = []

namespace Achievements

variable {past : List Exchange}

def toldByCompletion (row : Progress) : Except AchievementError Reward → List Payment
  | .ok reward => [⟨row.userId, row.achievementId, reward⟩]
  | .error _ => []

def toldByOutcome : Except AchievementError Outcome → List Payment
  | .ok (.completed userId achievementId reward) => [⟨userId, achievementId, reward⟩]
  | _ => []

def FoundUnpaid (achievementId : AchievementId) (userId : UserId) (past : List Exchange) :
    Except AchievementError Progress → Prop
  | .ok row => Unpaid past ∧ row.userId = userId ∧ row.achievementId = achievementId
  | .error _ => Unpaid past

theorem keeps_findProgress (achievementId : AchievementId) (userId : UserId) (h : Unpaid past) :
    (findProgress achievementId userId).Keeps AsksWell (FoundUnpaid achievementId userId) past := by
  refine ⟨⟨h, trivial⟩, ?_⟩
  rintro (e | _ | row) hkey
  · exact h
  · exact h
  · exact ⟨h, hkey⟩

theorem keeps_count (achievementId : AchievementId) (userId : UserId) (h : Unpaid past) :
    (count achievementId userId).Keeps AsksWell (FoundUnpaid achievementId userId) past := by
  refine ⟨⟨h, trivial⟩, ?_⟩
  rintro (e | _ | row) hkey
  · exact h
  · have hmiss : Unpaid (⟨.increment achievementId userId, .ok none⟩ :: past) := h
    change (findProgress achievementId userId >>= _).Keeps _ _ _
    apply (keeps_findProgress achievementId userId hmiss).bind
    · intro past row hrow
      exact Script.Keeps.require (fun _ => hrow) fun _ => hrow.1
    · exact fun past e h => h
  · exact ⟨h, hkey⟩

theorem keeps_complete (row : Progress) (h : Unpaid past) :
    (complete row).Keeps AsksWell (fun past result => Settled (toldByCompletion row result) past)
      past := by
  refine Script.Keeps.require (fun _ => ?_) fun _ => h
  refine ⟨⟨h, trivial⟩, ?_⟩
  rintro (e | _ | achievement) _
  · exact h
  · exact h
  · refine ⟨⟨h, achievement, List.mem_cons_self, rfl⟩, ?_⟩
    rintro (e | _ | _) _
    · exact h
    · exact h
    · exact ⟨congrArg (List.cons _) h.1, h.2⟩

theorem keeps_advance (row : Progress) (h : Unpaid past) :
    (advance row).Keeps AsksWell (fun past result => Settled (toldByOutcome result) past) past := by
  apply (keeps_count row.achievementId row.userId h).bind
  · rintro past counted ⟨hpast, huser, hachievement⟩
    split
    · apply (keeps_complete counted hpast).bind
      · intro past reward hreward
        rw [← huser, ← hachievement]
        exact hreward
      · exact fun past e h => h
    · exact hpast
  · exact fun past e h => h

theorem keeps_create (input : NewAchievement) :
    (create input).Keeps AsksWell (fun past _ => Unpaid past) [] := by
  unfold create
  split
  · exact ⟨rfl, rfl⟩
  · rename_i hverdict
    refine ⟨⟨⟨rfl, rfl⟩, hverdict⟩, ?_⟩
    rintro (e | achievement) _ <;> exact ⟨rfl, rfl⟩

theorem keeps_createCompact (form : CompactAchievement) :
    (createCompact form).Keeps AsksWell (fun past _ => Unpaid past) [] := by
  unfold createCompact
  split
  · exact ⟨rfl, rfl⟩
  · exact keeps_create _

theorem keeps_start (achievementId : AchievementId) (userId : UserId) (achievement : Achievement)
    (h : Unpaid past)
    (hfound : (⟨.findAchievement achievementId, .ok (some achievement)⟩ : Exchange) ∈ past) :
    (start achievementId userId achievement.target).Keeps AsksWell
      (FoundUnpaid achievementId userId) past := by
  refine ⟨⟨h, achievement, hfound, rfl⟩, ?_⟩
  rintro (e | row) hkey
  · change (if e.kind = .conflict then _ else _ : Script _ _).Keeps _ _ _
    split
    · exact keeps_findProgress achievementId userId h
    · exact h
  · exact ⟨h, hkey⟩

theorem keeps_record (today : Date) (userId : UserId) (achievementId : AchievementId)
    (h : Unpaid past) :
    (record today userId achievementId).Keeps AsksWell
      (fun past result => Settled (toldByOutcome result) past) past := by
  refine ⟨⟨h, trivial⟩, ?_⟩
  rintro (e | _ | achievement) hkey
  · exact h
  · exact h
  · have hshown : ⟨.findAchievement achievementId, .ok (some achievement)⟩ ∈
        (⟨.findAchievement achievementId, .ok (some achievement)⟩ :: past : List Exchange) :=
      List.mem_cons_self
    refine Script.Keeps.require (fun _ => ?_) fun _ => h
    refine ⟨⟨h, trivial⟩, ?_⟩
    rintro (e | _ | row) _
    · exact h
    · have hmiss : Unpaid (⟨.findProgress achievementId userId, .ok none⟩ ::
        ⟨.findAchievement achievementId, .ok (some achievement)⟩ :: past) := h
      have hfound := List.mem_cons_of_mem ⟨.findProgress achievementId userId, .ok none⟩ hshown
      apply (keeps_start achievementId userId achievement hmiss hfound).bind
      · exact fun past row hrow => keeps_advance row hrow.1
      · exact fun past e h => h
    · exact keeps_advance row h

end Achievements

namespace Coupons

variable {past : List Exchange}

def Redeemed (userId : UserId) (couponId : CouponId) (past : List Exchange) :
    Except CouponError Balance → Prop
  | .ok _ =>
    ∃ coupon, (⟨.findCoupon couponId, .ok (some coupon)⟩ : Exchange) ∈ past ∧
      purchasesIn past = coupon.purchases userId
  | .error _ => purchasesIn past = []

theorem keeps_redeem (curve : LevelCurve) (today : Date) (userId : UserId) (couponId : CouponId)
    (h : Unpaid past) :
    (redeem curve today userId couponId).Keeps AsksWell
      (fun past result => paymentsIn past = [] ∧ Redeemed userId couponId past result) past := by
  refine ⟨⟨h, trivial⟩, ?_⟩
  rintro (e | _ | coupon) _
  · exact h
  · exact h
  · have hshown : ⟨.findCoupon couponId, .ok (some coupon)⟩ ∈
        (⟨.findCoupon couponId, .ok (some coupon)⟩ :: past : List Exchange) := List.mem_cons_self
    refine Script.Keeps.require (fun _ => ?_) fun _ => h
    refine ⟨⟨h, trivial⟩, ?_⟩
    rintro (e | found) _
    · exact h
    · have hfound :=
        List.mem_cons_of_mem ⟨.findBalance userId coupon.restaurantId, .ok found⟩ hshown
      refine Script.Keeps.require (fun _ => ?_) fun _ => h
      split
      · rename_i hfree
        refine ⟨h.1, coupon, hfound, ?_⟩
        rw [Coupon.purchases, if_pos hfree]
        exact h.2
      · rename_i hprice
        refine Script.Keeps.require (fun _ => ?_) fun _ => h
        refine ⟨⟨h, couponId, coupon, hfound, rfl, rfl⟩, ?_⟩
        rintro (e | _ | rest) _
        · exact h
        · exact h
        · refine ⟨h.1, coupon, List.mem_cons_of_mem _ hfound, ?_⟩
          rw [Coupon.purchases, if_neg hprice]
          exact congrArg (List.cons _) h.2

end Coupons

namespace Accounts

theorem email_ne_of_verdict {input : Registration} {taken : Bool}
    (h : (input.report taken).verdict = .ok ()) : input.email ≠ "" := by
  intro hemail
  rw [Report.verdict_eq_ok_iff] at h
  simp [Registration.report, Report.entries_check, hemail] at h

theorem keeps_register (input : Registration) :
    (register input).Keeps AsksWell (fun past _ => Unpaid past) [] := by
  refine ⟨⟨⟨rfl, rfl⟩, trivial⟩, ?_⟩
  rintro (e | holder) _
  · exact ⟨rfl, rfl⟩
  · dsimp only [Script.bind]
    cases hverdict : (input.report (Option.isSome holder)).verdict with
    | error report => exact ⟨rfl, rfl⟩
    | ok _ =>
      refine ⟨⟨⟨rfl, rfl⟩, email_ne_of_verdict hverdict⟩, ?_⟩
      rintro (e | user) _ <;> exact ⟨rfl, rfl⟩

end Accounts

namespace Operation

theorem asks_of_asksWell (op : Operation) (past : List Exchange) (r : Request)
    (h : AsksWell past r) : op.Asks past r := ⟨h.1, Or.inr h.2⟩

/-- Every operation keeps to its contract, whatever it is answered. -/
theorem keeps_script (op : Operation) : op.script.Keeps op.Asks op.Ends [] := by
  cases op with
  | register input =>
    rw [script, Script.keeps_relabel]
    apply (Accounts.keeps_register input).mono (asks_of_asksWell _)
    rintro past (e | user) h <;> exact ⟨h.1, Or.inr h.2⟩
  | createCoupon form =>
    rw [script, Script.keeps_relabel, Coupons.create]
    cases hform : form.validate with
    | error report => exact ⟨rfl, Or.inr rfl⟩
    | ok input =>
      refine ⟨⟨⟨rfl, rfl⟩, Or.inr ⟨form, hform⟩⟩, ?_⟩
      rintro (e | coupon) _ <;> exact ⟨rfl, Or.inr rfl⟩
  | redeem curve today userId couponId =>
    rw [script, Script.keeps_relabel]
    apply (Coupons.keeps_redeem curve today userId couponId ⟨rfl, rfl⟩).mono (asks_of_asksWell _)
    rintro past (e | balance) h
    · exact ⟨h.1, Or.inr h.2⟩
    · exact h
  | credit userId restaurantId points experience =>
    refine ⟨⟨⟨rfl, rfl⟩, Or.inl ⟨rfl, rfl⟩⟩, ?_⟩
    rintro (e | balance) _ <;> exact ⟨rfl, Or.inl rfl⟩
  | debit userId restaurantId points =>
    refine ⟨⟨⟨rfl, rfl⟩, Or.inl ⟨rfl, rfl⟩⟩, ?_⟩
    rintro (e | _ | balance) _ <;> exact ⟨rfl, Or.inl rfl⟩
  | createAchievement input =>
    rw [script, Script.keeps_relabel]
    apply (Achievements.keeps_create input).mono (asks_of_asksWell _)
    rintro past (e | achievement) h <;> exact ⟨h.1, Or.inr h.2⟩
  | createCompactAchievement form =>
    rw [script, Script.keeps_relabel]
    apply (Achievements.keeps_createCompact form).mono (asks_of_asksWell _)
    rintro past (e | achievement) h <;> exact ⟨h.1, Or.inr h.2⟩
  | advance row =>
    rw [script, Script.keeps_relabel]
    apply (Achievements.keeps_advance row ⟨rfl, rfl⟩).mono (asks_of_asksWell _)
    rintro past (e | _ | _) h <;> exact ⟨h.1, Or.inr h.2⟩
  | complete row =>
    rw [script, Script.keeps_relabel]
    apply (Achievements.keeps_complete row ⟨rfl, rfl⟩).mono (asks_of_asksWell _)
    rintro past (e | reward) h <;> exact ⟨h.1, Or.inr h.2⟩
  | record today userId achievementId =>
    rw [script, Script.keeps_relabel]
    have hunpaid : Unpaid [] := ⟨rfl, rfl⟩
    apply (Achievements.keeps_record today userId achievementId hunpaid).mono (asks_of_asksWell _)
    rintro past (e | _ | _) h <;> exact ⟨h.1, Or.inr h.2⟩
  | authenticate _ _ | createRestaurant _ | listCoupons _ | listValidCoupons _ _ | listBalances _
  | listAchievements _ | listActiveAchievements _ _ | listUnstarted _ _ | listProgress _
  | findBalance _ _ | findRestaurant _ =>
    refine ⟨⟨⟨rfl, rfl⟩, Or.inr trivial⟩, ?_⟩
    rintro (e | a) _ <;> exact ⟨rfl, Or.inr rfl⟩
  | setAccountType _ _ | softDeleteCoupon _ | deleteAchievement _ | getUser _ | getProfile _
  | getDisplayName _ | getCoupon _ | getCouponDetails _ _ | restaurantIdOfCoupon _
  | getAchievement _ | getReward _ | findProgress _ _ =>
    refine ⟨⟨⟨rfl, rfl⟩, Or.inr trivial⟩, ?_⟩
    rintro (e | _ | a) _ <;> exact ⟨rfl, Or.inr rfl⟩
  | restaurantOfCoupon _ =>
    refine ⟨⟨⟨rfl, rfl⟩, Or.inr trivial⟩, ?_⟩
    rintro (e | _ | ⟨coupon, _ | restaurant⟩) _ <;> exact ⟨rfl, Or.inr rfl⟩

end Operation
end Loyalty
