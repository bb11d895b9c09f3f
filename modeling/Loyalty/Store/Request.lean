import Loyalty.Achievement
import Loyalty.Balance
import Loyalty.Coupon
import Loyalty.Restaurant
import Loyalty.User

/-!
# Requests to a store

Everything that is kept is kept behind these requests. A store answers each of them at once, with
nothing else happening in between, and the type of the answer depends on the request.
-/

namespace Loyalty

inductive Request where
  | createUser (input : NewUser)
  | findUser (id : UserId)
  | findUserByEmail (email : String)
  | findUserByCredentials (email passwordDigest : String)
  | setAccountType (id : UserId) (accountType : AccountType)
  | createRestaurant (input : NewRestaurant)
  | findRestaurant (id : RestaurantId)
  | createCoupon (input : NewCoupon)
  | findCoupon (id : CouponId)
  | findCouponWithRestaurant (id : CouponId)
  | listCoupons (restaurantId : RestaurantId)
  | markDeleted (id : CouponId)
  | findBalance (userId : UserId) (restaurantId : RestaurantId)
  | listBalances (userId : UserId)
  | credit (userId : UserId) (restaurantId : RestaurantId) (points experience : Amount)
  | debit (userId : UserId) (restaurantId : RestaurantId) (points : Amount)
  | createAchievement (input : NewAchievement)
  | findAchievement (id : AchievementId)
  | listAchievements (restaurantId : RestaurantId)
  | deleteAchievement (id : AchievementId)
  | listProgress (userId : UserId)
  | findProgress (achievementId : AchievementId) (userId : UserId)
  | createProgress (achievementId : AchievementId) (userId : UserId) (total : Amount)
  | increment (achievementId : AchievementId) (userId : UserId)
  | complete (row : Progress) (reward : Reward)
  deriving DecidableEq, Repr

namespace Request

/-- What a request is answered with. Changes of single rows tell whether there was such a row; a
debit, an increment and a completion are made only where they are covered. -/
@[reducible] def Answer : Request → Type
  | .createUser _ => User
  | .findUser _ => Option User
  | .findUserByEmail _ => Option User
  | .findUserByCredentials .. => Option User
  | .setAccountType .. => Bool
  | .createRestaurant _ => Restaurant
  | .findRestaurant _ => Option Restaurant
  | .createCoupon _ => Coupon
  | .findCoupon _ => Option Coupon
  | .findCouponWithRestaurant _ => Option (Coupon × Option Restaurant)
  | .listCoupons _ => List Coupon
  | .markDeleted _ => Bool
  | .findBalance .. => Option Balance
  | .listBalances _ => List Balance
  | .credit .. => Balance
  | .debit .. => Option Balance
  | .createAchievement _ => Achievement
  | .findAchievement _ => Option Achievement
  | .listAchievements _ => List Achievement
  | .deleteAchievement _ => Bool
  | .listProgress _ => List Progress
  | .findProgress .. => Option Progress
  | .createProgress .. => Progress
  | .increment .. => Option Progress
  | .complete .. => Bool

end Request

end Loyalty
