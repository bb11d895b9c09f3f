import Loyalty.Identifiers

/-!
# Restaurants

Restaurants own coupons, achievements and balances.
-/

namespace Loyalty

structure Restaurant where
  id : RestaurantId
  name : String
  address : String
  deriving DecidableEq, Repr

structure NewRestaurant where
  name : String
  address : String
  deriving DecidableEq, Repr

end Loyalty
