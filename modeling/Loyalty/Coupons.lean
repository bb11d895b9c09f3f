import Loyalty.Coupon.Form
import Loyalty.Store.Script

/-!
# The offer of coupons

Coupons are created, listed, deleted and redeemed by scripts over a store. A redemption reads the
balance first, and the debit that follows is made only where the balance still covers it.
-/

namespace Loyalty

inductive CouponError where
  | invalid (report : Report CouponComplaint)
  | notFound (id : CouponId)
  | restaurantNotFound (id : RestaurantId)
  | unavailable (id : CouponId)
  | levelTooLow (required : Amount) (actual : Nat)
  | insufficientPoints (required available : Amount)
  | store (e : StoreError)
  deriving DecidableEq, Repr

namespace CouponError

def message : CouponError → String
  | .invalid report => "invalid coupon: " ++ (report.map CouponComplaint.message).text
  | .notFound id => "coupon not found: " ++ toString id
  | .restaurantNotFound id => "restaurant not found: " ++ toString id
  | .unavailable id => "coupon " ++ toString id ++ " is not available"
  | .levelTooLow required actual =>
    "level " ++ String.ofList (Text.digits actual) ++ " is below the required level " ++
      Text.ofAmount required
  | .insufficientPoints required available =>
    "coupon costs " ++ Text.ofAmount required ++ " points but only " ++ Text.ofAmount available ++
      " are available"
  | .store e => e.message

def failure (e : CouponError) : Failure :=
  match e with
  | .invalid report => .validation (report.map CouponComplaint.message)
  | .notFound _ => .notFound e.message
  | .restaurantNotFound _ => .notFound e.message
  | .unavailable _ => .businessRule e.message
  | .levelTooLow .. => .businessRule e.message
  | .insufficientPoints .. => .businessRule e.message
  | .store e => e.failure

end CouponError

namespace Coupons

def create (form : CouponForm) : Script CouponError Coupon :=
  match form.validate with
  | .error report => .fail (.invalid report)
  | .ok input => Script.ask .store (.createCoupon input)

def get (id : CouponId) : Script CouponError Coupon := do
  let coupon ← Script.ask .store (.findCoupon id)
  Script.ofOption (.notFound id) coupon

def details (today : Date) (id : CouponId) : Script CouponError CouponDetails := do
  let coupon ← get id
  pure ⟨coupon, coupon.statusOn today⟩

/-- Marks a coupon as deleted; a coupon may be deleted again. -/
def softDelete (id : CouponId) : Script CouponError Unit := do
  let found ← Script.ask .store (.markDeleted id)
  Script.require found (.notFound id)

/-- All coupons of a restaurant, deleted ones included. -/
def list (restaurantId : RestaurantId) : Script CouponError (List Coupon) :=
  Script.ask .store (.listCoupons restaurantId)

def listValid (today : Date) (restaurantId : RestaurantId) : Script CouponError (List Coupon) := do
  let coupons ← list restaurantId
  pure (Coupon.filterValidOn coupons today)

def restaurantOf (id : CouponId) : Script CouponError Restaurant := do
  let found ← Script.ask .store (.findCouponWithRestaurant id)
  let (coupon, restaurant) ← Script.ofOption (.notFound id) found
  Script.ofOption (.restaurantNotFound coupon.restaurantId) restaurant

def restaurantIdOf (id : CouponId) : Script CouponError RestaurantId := do
  let coupon ← get id
  pure coupon.restaurantId

/-- Takes the cost of a coupon out of a balance that was read before. -/
def pay (coupon : Coupon) (balance : Balance) (userId : UserId) : Script CouponError Balance := do
  let rest ← Script.ask .store (.debit userId coupon.restaurantId coupon.points)
  Script.ofOption (.insufficientPoints coupon.points balance.points) rest

/-- Exchanges points for a coupon that is live today; a coupon without a cost writes nothing. -/
def redeem (curve : LevelCurve) (today : Date) (userId : UserId) (couponId : CouponId) :
    Script CouponError Balance := do
  let coupon ← get couponId
  Script.require (coupon.isRedeemableOn today) (.unavailable couponId)
  let found ← Script.ask .store (.findBalance userId coupon.restaurantId)
  let balance := Option.getD found (.empty userId coupon.restaurantId)
  Script.require (decide (coupon.level.toInt ≤ balance.level curve))
    (.levelTooLow coupon.level (balance.level curve))
  if coupon.points = 0 then pure balance
  else do
    Script.require (decide (coupon.points ≤ balance.points))
      (.insufficientPoints coupon.points balance.points)
    pay coupon balance userId

end Coupons

end Loyalty
