import Loyalty.Identifiers
import Loyalty.Level

/-!
# Balances

The points and the experience that a user holds at a restaurant.
-/

namespace Loyalty

structure Balance where
  userId : UserId
  restaurantId : RestaurantId
  points : Amount
  experience : Amount
  deriving DecidableEq, Repr

namespace Balance

/-- The balance of a pair that was never credited. -/
def empty (userId : UserId) (restaurantId : RestaurantId) : Balance := ⟨userId, restaurantId, 0, 0⟩

def level (b : Balance) (curve : LevelCurve) : Nat := curve.levelFor b.experience.toInt

end Balance

end Loyalty
