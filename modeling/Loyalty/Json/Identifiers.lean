import Loyalty.Identifiers
import Loyalty.Json.Reader

/-!
# Identifiers in JSON

An identifier is written as its number.
-/

namespace Loyalty

namespace UserId

def toJson (id : UserId) : Json := Json.ofAmount id.value

def ofJson : Json.Reader UserId := fun j => (Json.readAmount j).map mk

@[simp] theorem ofJson_toJson (id : UserId) : ofJson id.toJson = .ok id := by
  simp [ofJson, toJson, Except.map]

end UserId

namespace RestaurantId

def toJson (id : RestaurantId) : Json := Json.ofAmount id.value

def ofJson : Json.Reader RestaurantId := fun j => (Json.readAmount j).map mk

@[simp] theorem ofJson_toJson (id : RestaurantId) : ofJson id.toJson = .ok id := by
  simp [ofJson, toJson, Except.map]

end RestaurantId

namespace CouponId

def toJson (id : CouponId) : Json := Json.ofAmount id.value

def ofJson : Json.Reader CouponId := fun j => (Json.readAmount j).map mk

@[simp] theorem ofJson_toJson (id : CouponId) : ofJson id.toJson = .ok id := by
  simp [ofJson, toJson, Except.map]

end CouponId

namespace AchievementId

def toJson (id : AchievementId) : Json := Json.ofAmount id.value

def ofJson : Json.Reader AchievementId := fun j => (Json.readAmount j).map mk

@[simp] theorem ofJson_toJson (id : AchievementId) : ofJson id.toJson = .ok id := by
  simp [ofJson, toJson, Except.map]

end AchievementId

end Loyalty
