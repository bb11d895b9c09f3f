import Loyalty.Accounts
import Loyalty.Achievements
import Loyalty.Coupons

/-!
# Operations

The calls that can be made: those of the accounts, of the offers of coupons and achievements, and
the requests on restaurants and balances that are made of a store directly. Each operation has its
arguments, the day on which it is made included, and a script. All scripts end in a reply or in a
refusal.
-/

namespace Loyalty

namespace Script

variable {ε δ α β σ : Type}

/-- Changes what a script ends in, but not what it asks. -/
def relabel (onError : ε → δ) (onValue : α → β) : Script ε α → Script δ β
  | .done a => .done (onValue a)
  | .fail e => .fail (onError e)
  | .call r next => .call r fun answer => (next answer).relabel onError onValue

def relabelResult (onError : ε → δ) (onValue : α → β) : Except ε α → Except δ β
  | .ok a => .ok (onValue a)
  | .error e => .error (onError e)

theorem run_relabel (handle : Handler σ) (onError : ε → δ) (onValue : α → β) (p : Script ε α)
    (s : σ) :
    run handle (p.relabel onError onValue) s =
      (relabelResult onError onValue (run handle p s).1, (run handle p s).2) := by
  induction p generalizing s with
  | done a => rfl
  | fail e => rfl
  | call r next ih => simp only [relabel, run_call, ih]

end Script

inductive Reply where
  | nothing
  | user (user : User)
  | userIfAny (user : Option User)
  | profile (profile : Profile)
  | name (name : String)
  | restaurant (restaurant : Restaurant)
  | restaurantIfAny (restaurant : Option Restaurant)
  | restaurantId (id : RestaurantId)
  | coupon (coupon : Coupon)
  | couponDetails (details : CouponDetails)
  | coupons (coupons : List Coupon)
  | balance (balance : Balance)
  | balanceIfAny (balance : Option Balance)
  | balances (balances : List Balance)
  | achievement (achievement : Achievement)
  | achievements (achievements : List Achievement)
  | shown (achievements : List AchievementProgress)
  | row (row : Progress)
  | rows (rows : List Progress)
  | reward (reward : Reward)
  | outcome (outcome : Outcome)
  deriving DecidableEq

inductive Refusal where
  | account (e : AccountError)
  | coupon (e : CouponError)
  | achievement (e : AchievementError)
  | store (e : StoreError)
  deriving DecidableEq

inductive Operation where
  | register (input : Registration)
  | authenticate (email passwordDigest : String)
  | setAccountType (id : UserId) (accountType : AccountType)
  | getUser (id : UserId)
  | getProfile (id : UserId)
  | getDisplayName (id : UserId)
  | createRestaurant (input : NewRestaurant)
  | findRestaurant (id : RestaurantId)
  | createCoupon (form : CouponForm)
  | getCoupon (id : CouponId)
  | getCouponDetails (today : Date) (id : CouponId)
  | softDeleteCoupon (id : CouponId)
  | listCoupons (restaurantId : RestaurantId)
  | listValidCoupons (today : Date) (restaurantId : RestaurantId)
  | restaurantOfCoupon (id : CouponId)
  | restaurantIdOfCoupon (id : CouponId)
  | redeem (curve : LevelCurve) (today : Date) (userId : UserId) (couponId : CouponId)
  | findBalance (userId : UserId) (restaurantId : RestaurantId)
  | listBalances (userId : UserId)
  | credit (userId : UserId) (restaurantId : RestaurantId) (points experience : Amount)
  | debit (userId : UserId) (restaurantId : RestaurantId) (points : Amount)
  | createAchievement (input : NewAchievement)
  | createCompactAchievement (form : CompactAchievement)
  | deleteAchievement (id : AchievementId)
  | getAchievement (id : AchievementId)
  | getReward (id : AchievementId)
  | listAchievements (restaurantId : RestaurantId)
  | listActiveAchievements (today : Date) (restaurantId : RestaurantId)
  | listUnstarted (achievements : List Achievement) (userId : UserId)
  | listProgress (userId : UserId)
  | findProgress (achievementId : AchievementId) (userId : UserId)
  | advance (row : Progress)
  | complete (row : Progress)
  | record (today : Date) (userId : UserId) (achievementId : AchievementId)

def Date.newYear : Date := ⟨2024, 1, 1, by decide⟩

namespace Operation

def script : Operation → Script Refusal Reply
  | .register input => (Accounts.register input).relabel .account .user
  | .authenticate email passwordDigest =>
    (Accounts.authenticate email passwordDigest).relabel .account .userIfAny
  | .setAccountType id accountType =>
    (Accounts.setAccountType id accountType).relabel .account fun _ => .nothing
  | .getUser id => (Accounts.get id).relabel .account .user
  | .getProfile id => (Accounts.profile id).relabel .account .profile
  | .getDisplayName id => (Accounts.displayName id).relabel .account .name
  | .createRestaurant input => (Script.ask .store (.createRestaurant input)).relabel id .restaurant
  | .findRestaurant restaurantId =>
    (Script.ask .store (.findRestaurant restaurantId)).relabel id .restaurantIfAny
  | .createCoupon form => (Coupons.create form).relabel .coupon .coupon
  | .getCoupon id => (Coupons.get id).relabel .coupon .coupon
  | .getCouponDetails today id => (Coupons.details today id).relabel .coupon .couponDetails
  | .softDeleteCoupon id => (Coupons.softDelete id).relabel .coupon fun _ => .nothing
  | .listCoupons restaurantId => (Coupons.list restaurantId).relabel .coupon .coupons
  | .listValidCoupons today restaurantId =>
    (Coupons.listValid today restaurantId).relabel .coupon .coupons
  | .restaurantOfCoupon id => (Coupons.restaurantOf id).relabel .coupon .restaurant
  | .restaurantIdOfCoupon id => (Coupons.restaurantIdOf id).relabel .coupon .restaurantId
  | .redeem curve today userId couponId =>
    (Coupons.redeem curve today userId couponId).relabel .coupon .balance
  | .findBalance userId restaurantId =>
    (Script.ask .store (.findBalance userId restaurantId)).relabel id .balanceIfAny
  | .listBalances userId => (Script.ask .store (.listBalances userId)).relabel id .balances
  | .credit userId restaurantId points experience =>
    (Script.ask .store (.credit userId restaurantId points experience)).relabel id .balance
  | .debit userId restaurantId points =>
    (Script.ask .store (.debit userId restaurantId points)).relabel id .balanceIfAny
  | .createAchievement input => (Achievements.create input).relabel .achievement .achievement
  | .createCompactAchievement form =>
    (Achievements.createCompact form).relabel .achievement .achievement
  | .deleteAchievement id => (Achievements.delete id).relabel .achievement fun _ => .nothing
  | .getAchievement id => (Achievements.get id).relabel .achievement .achievement
  | .getReward id => (Achievements.reward id).relabel .achievement .reward
  | .listAchievements restaurantId =>
    (Achievements.list restaurantId).relabel .achievement .achievements
  | .listActiveAchievements today restaurantId =>
    (Achievements.listActive today restaurantId).relabel .achievement .achievements
  | .listUnstarted achievements userId =>
    (Achievements.unstarted achievements userId).relabel .achievement .shown
  | .listProgress userId => (Achievements.progressOf userId).relabel .achievement .rows
  | .findProgress achievementId userId =>
    (Achievements.findProgress achievementId userId).relabel .achievement .row
  | .advance row => (Achievements.advance row).relabel .achievement .outcome
  | .complete row => (Achievements.complete row).relabel .achievement .reward
  | .record today userId achievementId =>
    (Achievements.record today userId achievementId).relabel .achievement .outcome

def movesPoints : Operation → Bool
  | .credit .. => true
  | .debit .. => true
  | _ => false

end Operation

end Loyalty
