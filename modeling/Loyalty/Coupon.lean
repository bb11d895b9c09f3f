import Loyalty.Identifiers
import Loyalty.Validity

/-!
# Coupons

A coupon costs points and may ask for a level. It is listed until its last day has passed and can
be redeemed on the days of its validity. A deleted coupon is kept but neither listed as valid nor
redeemed.
-/

namespace Loyalty

structure Coupon where
  id : CouponId
  restaurantId : RestaurantId
  name : String
  description : String
  points : Amount
  level : Amount
  validity : Validity
  deleted : Bool
  deriving DecidableEq, Repr

namespace Coupon

def statusOn (c : Coupon) (day : Date) : WindowStatus := c.validity.statusOn day

def isValidOn (c : Coupon) (day : Date) : Bool := !c.deleted && !c.validity.hasEndedOn day

def isRedeemableOn (c : Coupon) (day : Date) : Bool :=
  !c.deleted && c.statusOn day == .active

def filterValidOn (coupons : List Coupon) (day : Date) : List Coupon :=
  coupons.filter fun c => c.isValidOn day

end Coupon

structure CouponDetails where
  coupon : Coupon
  status : WindowStatus
  deriving DecidableEq, Repr

structure NewCoupon where
  restaurantId : RestaurantId
  name : String
  description : String
  points : Amount
  level : Amount
  validity : Validity
  deriving DecidableEq, Repr

end Loyalty
