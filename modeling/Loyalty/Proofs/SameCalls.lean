import Loyalty.Proofs.SameScripts

/-!
# Calls that are alike

Every call, but those that enter something new, makes nothing of the identifiers that it is given
than to hand them on to the store.
-/

namespace Loyalty

variable {l : Likeness}

namespace Accounts

theorem matches_authenticate (email passwordDigest : String) :
    (authenticate email passwordDigest).Matches l l.SameAccountError (Option.Rel l.SameUser)
      (authenticate email passwordDigest) :=
  .ask (.findUserByCredentials email passwordDigest) fun _ _ => .store

theorem matches_get {i j : UserId} (h : l.users i j) :
    (get i).Matches l l.SameAccountError l.SameUser (get j) :=
  (Script.Matches.ask (.findUser h) fun _ _ => .store).bind fun _ _ huser =>
    .ofOption huser (.notFound h)

theorem matches_setAccountType {i j : UserId} (h : l.users i j) (accountType : AccountType) :
    (setAccountType i accountType).Matches l l.SameAccountError (fun _ _ => True)
      (setAccountType j accountType) :=
  (Script.Matches.ask (.setAccountType h accountType) fun _ _ => .store).bind fun _ _ hfound =>
    .require hfound (.notFound h)

theorem matches_profile {i j : UserId} (h : l.users i j) :
    (profile i).Matches l l.SameAccountError l.SameProfile (profile j) := by
  refine (matches_get h).bind ?_
  rintro a b ⟨hid, hrest⟩
  rw [hrest]
  exact .done ⟨hid, rfl⟩

theorem matches_displayName {i j : UserId} (h : l.users i j) :
    (displayName i).Matches l l.SameAccountError Eq (displayName j) := by
  refine (matches_get h).bind ?_
  rintro a b ⟨_, hrest⟩
  rw [hrest]
  exact .done rfl

end Accounts

namespace Coupons

theorem matches_get {i j : CouponId} (h : l.coupons i j) :
    (get i).Matches l l.SameCouponError l.SameCoupon (get j) :=
  (Script.Matches.ask (.findCoupon h) fun _ _ => .store).bind fun _ _ hcoupon =>
    .ofOption hcoupon (.notFound h)

theorem matches_details (today : Date) {i j : CouponId} (h : l.coupons i j) :
    (details today i).Matches l l.SameCouponError l.SameDetails (details today j) := by
  refine (matches_get h).bind ?_
  intro a b hcoupon
  refine .done ⟨hcoupon, ?_⟩
  rw [hcoupon.2.2]
  rfl

theorem matches_softDelete {i j : CouponId} (h : l.coupons i j) :
    (softDelete i).Matches l l.SameCouponError (fun _ _ => True) (softDelete j) :=
  (Script.Matches.ask (.markDeleted h) fun _ _ => .store).bind fun _ _ hfound =>
    .require hfound (.notFound h)

theorem matches_list {i j : RestaurantId} (h : l.restaurants i j) :
    (list i).Matches l l.SameCouponError (List.Forall₂ l.SameCoupon) (list j) :=
  .ask (.listCoupons h) fun _ _ => .store

theorem matches_listValid (today : Date) {i j : RestaurantId} (h : l.restaurants i j) :
    (listValid today i).Matches l l.SameCouponError (List.Forall₂ l.SameCoupon)
      (listValid today j) := by
  refine (matches_list h).bind ?_
  intro as bs hcoupons
  refine .done (List.rel_filter ?_ hcoupons)
  intro a b hcoupon
  rw [hcoupon.2.2]
  rfl

theorem matches_restaurantOf {i j : CouponId} (h : l.coupons i j) :
    (restaurantOf i).Matches l l.SameCouponError l.SameRestaurant (restaurantOf j) := by
  refine (Script.Matches.ask (.findCouponWithRestaurant h) fun _ _ => .store).bind ?_
  intro a b hfound
  refine (Script.Matches.ofOption hfound (.notFound h)).bind ?_
  rintro ⟨c, r⟩ ⟨d, s⟩ ⟨hcoupon, hrestaurant⟩
  exact .ofOption hrestaurant (.restaurantNotFound hcoupon.2.1)

theorem matches_restaurantIdOf {i j : CouponId} (h : l.coupons i j) :
    (restaurantIdOf i).Matches l l.SameCouponError l.restaurants (restaurantIdOf j) := by
  refine (matches_get h).bind ?_
  intro a b hcoupon
  exact .done hcoupon.2.1

/-- The balances of pairs that are alike are alike, where none counts as the empty one. -/
theorem same_getD {u v : UserId} {i j : RestaurantId} (huser : l.users u v)
    (hrestaurant : l.restaurants i j) {a b : Option Balance} (h : Option.Rel l.SameBalance a b) :
    l.SameBalance (a.getD (.empty u i)) (b.getD (.empty v j)) := by
  cases h with
  | none => exact ⟨huser, hrestaurant, rfl⟩
  | some h => exact h

theorem matches_pay {u v : UserId} {c d : Coupon} {a b : Balance} (huser : l.users u v)
    (hcoupon : l.SameCoupon c d) (hbalance : l.SameBalance a b) :
    (pay c a u).Matches l l.SameCouponError l.SameBalance (pay d b v) := by
  obtain ⟨_, hrestaurant, hrest⟩ := hcoupon
  have hpoints : d.points = c.points := by rw [hrest]
  have hheld : b.points = a.points := by rw [hbalance.2.2]
  unfold pay
  rw [hpoints, hheld]
  exact (Script.Matches.ask (.debit huser hrestaurant c.points) fun _ _ => .store).bind
    fun _ _ hbalance => .ofOption hbalance (.insufficientPoints _ _)

/-- What is left of a redemption once the balance was read. -/
theorem matches_spend (curve : LevelCurve) {u v : UserId} {c d : Coupon} {a b : Balance}
    (huser : l.users u v) (hcoupon : l.SameCoupon c d) (hbalance : l.SameBalance a b) :
    Script.Matches l l.SameCouponError l.SameBalance
      (do
        Script.require (decide (c.level.toInt ≤ a.level curve))
          (.levelTooLow c.level (a.level curve))
        if c.points = 0 then pure a
        else do
          Script.require (decide (c.points ≤ a.points)) (.insufficientPoints c.points a.points)
          pay c a u)
      (do
        Script.require (decide (d.level.toInt ≤ b.level curve))
          (.levelTooLow d.level (b.level curve))
        if d.points = 0 then pure b
        else do
          Script.require (decide (d.points ≤ b.points)) (.insufficientPoints d.points b.points)
          pay d b v) := by
  have hlevel : d.level = c.level := by rw [hcoupon.2.2]
  have hpoints : d.points = c.points := by rw [hcoupon.2.2]
  have hheld : b.points = a.points := by rw [hbalance.2.2]
  have hreached : b.level curve = a.level curve := by
    rw [hbalance.2.2]
    rfl
  rw [hlevel, hpoints, hheld, hreached]
  refine (Script.Matches.require rfl (.levelTooLow _ _)).bind ?_
  rintro _ _ -
  split
  · exact .done hbalance
  · refine (Script.Matches.require rfl (.insufficientPoints _ _)).bind ?_
    rintro _ _ -
    exact matches_pay huser hcoupon hbalance

theorem matches_redeem (curve : LevelCurve) (today : Date) {u v : UserId} {i j : CouponId}
    (huser : l.users u v) (h : l.coupons i j) :
    (redeem curve today u i).Matches l l.SameCouponError l.SameBalance
      (redeem curve today v j) := by
  refine (matches_get h).bind ?_
  intro c d hcoupon
  have hrestaurant := hcoupon.2.1
  have hredeemable : c.isRedeemableOn today = d.isRedeemableOn today := by
    rw [hcoupon.2.2]
    rfl
  refine (Script.Matches.require hredeemable (.unavailable h)).bind ?_
  rintro _ _ -
  refine (Script.Matches.ask (.findBalance huser hrestaurant) fun _ _ => .store).bind ?_
  intro found found' hfound
  have hbalance := same_getD huser hrestaurant hfound
  exact matches_spend curve huser hcoupon hbalance

end Coupons

namespace Achievements

theorem matches_get {i j : AchievementId} (h : l.achievements i j) :
    (get i).Matches l l.SameAchievementError l.SameAchievement (get j) :=
  (Script.Matches.ask (.findAchievement h) fun _ _ => .store).bind fun _ _ hachievement =>
    .ofOption hachievement (.notFound h)

theorem matches_delete {i j : AchievementId} (h : l.achievements i j) :
    (delete i).Matches l l.SameAchievementError (fun _ _ => True) (delete j) :=
  (Script.Matches.ask (.deleteAchievement h) fun _ _ => .store).bind fun _ _ hfound =>
    .require hfound (.notFound h)

theorem matches_list {i j : RestaurantId} (h : l.restaurants i j) :
    (list i).Matches l l.SameAchievementError (List.Forall₂ l.SameAchievement) (list j) :=
  .ask (.listAchievements h) fun _ _ => .store

theorem matches_listActive (today : Date) {i j : RestaurantId} (h : l.restaurants i j) :
    (listActive today i).Matches l l.SameAchievementError (List.Forall₂ l.SameAchievement)
      (listActive today j) := by
  refine (matches_list h).bind ?_
  intro as bs hachievements
  refine .done (List.rel_filter ?_ hachievements)
  intro a b hachievement
  rw [hachievement.2.2]

theorem matches_progressOf {u v : UserId} (h : l.users u v) :
    (progressOf u).Matches l l.SameAchievementError l.SameRows (progressOf v) :=
  .ask (.listProgress h) fun _ _ => .store

theorem matches_unstarted {as bs : List Achievement} {u v : UserId}
    (hachievements : List.Forall₂ l.SameAchievement as bs) (huser : l.users u v) :
    (unstarted as u).Matches l l.SameAchievementError (List.Forall₂ l.SameShown)
      (unstarted bs v) := by
  refine (matches_progressOf huser).bind ?_
  rintro rows rows' ⟨_, hstarted⟩
  have hopen : List.Forall₂ l.SameAchievement
      (as.filter fun a => !rows.any fun p => p.achievementId = a.id)
      (bs.filter fun b => !rows'.any fun p => p.achievementId = b.id) := by
    refine List.rel_filter ?_ hachievements
    intro a b hachievement
    dsimp only
    rw [hstarted _ _ hachievement.1]
  refine .done (List.rel_map ?_ hopen)
  intro a b hachievement
  refine ⟨hachievement, rfl, ?_⟩
  rw [hachievement.2.2]
  rfl

theorem matches_findProgress {i j : AchievementId} {u v : UserId}
    (hachievement : l.achievements i j) (huser : l.users u v) :
    (findProgress i u).Matches l l.SameAchievementError l.SameProgress (findProgress j v) :=
  (Script.Matches.ask (.findProgress hachievement huser) fun _ _ => .store).bind fun _ _ hrow =>
    .ofOption hrow (.progressNotFound hachievement huser)

theorem same_reward {a b : Achievement} (h : l.SameAchievement a b) :
    l.SameReward a.reward b.reward := by
  refine ⟨h.2.1, ?_⟩
  rw [h.2.2]
  rfl

theorem matches_reward {i j : AchievementId} (h : l.achievements i j) :
    (reward i).Matches l l.SameAchievementError l.SameReward (reward j) := by
  refine (matches_get h).bind ?_
  intro a b hachievement
  exact .done (same_reward hachievement)

theorem same_isComplete {a b : Progress} (h : l.SameProgress a b) :
    a.isComplete = b.isComplete := by
  rw [h.2.2]
  rfl

theorem matches_complete {a b : Progress} (h : l.SameProgress a b) :
    (complete a).Matches l l.SameAchievementError l.SameReward (complete b) := by
  have huser := h.1
  have hachievement := h.2.1
  refine (Script.Matches.require (same_isComplete h) (.unfinished hachievement huser)).bind ?_
  rintro _ _ -
  refine (matches_reward hachievement).bind ?_
  intro reward reward' hreward
  refine (Script.Matches.ask (.complete h hreward) fun _ _ => .store).bind ?_
  intro paid paid' hpaid
  refine (Script.Matches.require hpaid (.alreadyCompleted hachievement huser)).bind ?_
  rintro _ _ -
  exact .done hreward

theorem matches_count {i j : AchievementId} {u v : UserId} (hachievement : l.achievements i j)
    (huser : l.users u v) :
    (count i u).Matches l l.SameAchievementError l.SameProgress (count j v) := by
  refine (Script.Matches.ask (.increment hachievement huser) fun _ _ => .store).bind ?_
  intro counted counted' hcounted
  cases hcounted with
  | some hrow => exact .done hrow
  | none =>
    refine (matches_findProgress hachievement huser).bind ?_
    intro a b hrow
    refine (Script.Matches.require (same_isComplete hrow)
      (.progressNotFound hachievement huser)).bind ?_
    rintro _ _ -
    exact .done hrow

theorem matches_advance {a b : Progress} (h : l.SameProgress a b) :
    (advance a).Matches l l.SameAchievementError l.SameOutcome (advance b) := by
  obtain ⟨huser, hachievement, _⟩ := h
  refine (matches_count hachievement huser).bind ?_
  intro c d hrow
  rw [same_isComplete hrow]
  split
  · refine (matches_complete hrow).bind ?_
    intro reward reward' hreward
    exact .done (.completed huser hachievement hreward)
  · exact .done (.advanced hrow)

end Achievements

namespace Operation

/-- Operations that give out identifiers, or may start a progress row. -/
def enters : Operation → Bool
  | .register _ => true
  | .createRestaurant _ => true
  | .createCoupon _ => true
  | .createAchievement _ => true
  | .createCompactAchievement _ => true
  | .record .. => true
  | _ => false

theorem matches_script {op op' : Operation} (h : l.SameCall op op') (hop : op.enters = false) :
    op.script.Matches l l.SameRefusal l.SameReply op'.script := by
  cases h with
  | authenticate email passwordDigest =>
    exact (Accounts.matches_authenticate email passwordDigest).relabel (fun _ _ => .account)
      fun _ _ => .userIfAny
  | setAccountType h accountType =>
    exact (Accounts.matches_setAccountType h accountType).relabel (fun _ _ => .account)
      fun _ _ _ => .nothing
  | getUser h => exact (Accounts.matches_get h).relabel (fun _ _ => .account) fun _ _ => .user
  | getProfile h =>
    exact (Accounts.matches_profile h).relabel (fun _ _ => .account) fun _ _ => .profile
  | getDisplayName h =>
    refine (Accounts.matches_displayName h).relabel (fun _ _ => .account) ?_
    rintro name _ rfl
    exact .name name
  | findRestaurant h =>
    exact (Script.Matches.ask (.findRestaurant h) fun _ _ => .store).relabel (fun _ _ h => h)
      fun _ _ => .restaurantIfAny
  | getCoupon h => exact (Coupons.matches_get h).relabel (fun _ _ => .coupon) fun _ _ => .coupon
  | getCouponDetails today h =>
    exact (Coupons.matches_details today h).relabel (fun _ _ => .coupon) fun _ _ => .couponDetails
  | softDeleteCoupon h =>
    exact (Coupons.matches_softDelete h).relabel (fun _ _ => .coupon) fun _ _ _ => .nothing
  | listCoupons h =>
    exact (Coupons.matches_list h).relabel (fun _ _ => .coupon) fun _ _ => .coupons
  | listValidCoupons today h =>
    exact (Coupons.matches_listValid today h).relabel (fun _ _ => .coupon) fun _ _ => .coupons
  | restaurantOfCoupon h =>
    exact (Coupons.matches_restaurantOf h).relabel (fun _ _ => .coupon) fun _ _ => .restaurant
  | restaurantIdOfCoupon h =>
    exact (Coupons.matches_restaurantIdOf h).relabel (fun _ _ => .coupon)
      fun _ _ => .restaurantId
  | redeem curve today huser hcoupon =>
    exact (Coupons.matches_redeem curve today huser hcoupon).relabel (fun _ _ => .coupon)
      fun _ _ => .balance
  | findBalance huser hrestaurant =>
    exact (Script.Matches.ask (.findBalance huser hrestaurant) fun _ _ => .store).relabel
      (fun _ _ h => h) fun _ _ => .balanceIfAny
  | listBalances h =>
    exact (Script.Matches.ask (.listBalances h) fun _ _ => .store).relabel (fun _ _ h => h)
      fun _ _ => .balances
  | credit huser hrestaurant points experience =>
    exact (Script.Matches.ask (.credit huser hrestaurant points experience)
      fun _ _ => .store).relabel (fun _ _ h => h) fun _ _ => .balance
  | debit huser hrestaurant points =>
    exact (Script.Matches.ask (.debit huser hrestaurant points) fun _ _ => .store).relabel
      (fun _ _ h => h) fun _ _ => .balanceIfAny
  | deleteAchievement h =>
    exact (Achievements.matches_delete h).relabel (fun _ _ => .achievement)
      fun _ _ _ => .nothing
  | getAchievement h =>
    exact (Achievements.matches_get h).relabel (fun _ _ => .achievement) fun _ _ => .achievement
  | getReward h =>
    exact (Achievements.matches_reward h).relabel (fun _ _ => .achievement) fun _ _ => .reward
  | listAchievements h =>
    exact (Achievements.matches_list h).relabel (fun _ _ => .achievement)
      fun _ _ => .achievements
  | listActiveAchievements today h =>
    exact (Achievements.matches_listActive today h).relabel (fun _ _ => .achievement)
      fun _ _ => .achievements
  | listUnstarted hachievements huser =>
    exact (Achievements.matches_unstarted hachievements huser).relabel (fun _ _ => .achievement)
      fun _ _ => .shown
  | listProgress h =>
    exact (Achievements.matches_progressOf h).relabel (fun _ _ => .achievement)
      fun _ _ hrows => .rows hrows.1
  | findProgress hachievement huser =>
    exact (Achievements.matches_findProgress hachievement huser).relabel (fun _ _ => .achievement)
      fun _ _ => .row
  | advance h =>
    exact (Achievements.matches_advance h).relabel (fun _ _ => .achievement) fun _ _ => .outcome
  | complete h =>
    exact (Achievements.matches_complete h).relabel (fun _ _ => .achievement) fun _ _ => .reward
  | _ => cases hop

end Operation

end Loyalty
