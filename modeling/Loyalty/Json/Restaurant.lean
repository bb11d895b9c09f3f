import Loyalty.Balance
import Loyalty.Json.Identifiers
import Loyalty.Restaurant

/-!
# Restaurants and balances in JSON

Restaurants and the balances held at them are records.
-/

namespace Loyalty

namespace Restaurant

def toJson (r : Restaurant) : Json :=
  .object [("id", r.id.toJson), ("name", .string r.name), ("address", .string r.address)]

def ofMembers (members : List (String × Json)) : Except Unreadable Restaurant := do
  let address ← Json.member? members "address" Json.readString
  let id ← Json.member? members "id" RestaurantId.ofJson
  let name ← Json.member? members "name" Json.readString
  .ok ⟨← Json.present id, ← Json.present name, ← Json.present address⟩

def ofItems (items : List Json) : Except Unreadable Restaurant := do
  let (id, items) ← Json.item RestaurantId.ofJson items
  let (name, items) ← Json.item Json.readString items
  let (address, items) ← Json.item Json.readString items
  Json.noMore items
  .ok ⟨id, name, address⟩

def ofJson : Json.Reader Restaurant := Json.readRecord ofMembers ofItems

end Restaurant

namespace Balance

def members (b : Balance) : List (String × Json) :=
  [("user_id", b.userId.toJson), ("restaurant_id", b.restaurantId.toJson),
    ("points", Json.ofAmount b.points), ("experience", Json.ofAmount b.experience)]

def toJson (b : Balance) : Json := .object b.members

def ofMembers (members : List (String × Json)) : Except Unreadable Balance := do
  let experience ← Json.member? members "experience" Json.readAmount
  let points ← Json.member? members "points" Json.readAmount
  let restaurantId ← Json.member? members "restaurant_id" RestaurantId.ofJson
  let userId ← Json.member? members "user_id" UserId.ofJson
  .ok ⟨← Json.present userId, ← Json.present restaurantId, ← Json.present points,
    ← Json.present experience⟩

def ofItems (items : List Json) : Except Unreadable Balance := do
  let (userId, items) ← Json.item UserId.ofJson items
  let (restaurantId, items) ← Json.item RestaurantId.ofJson items
  let (points, items) ← Json.item Json.readAmount items
  let (experience, items) ← Json.item Json.readAmount items
  Json.noMore items
  .ok ⟨userId, restaurantId, points, experience⟩

def ofJson : Json.Reader Balance := Json.readRecord ofMembers ofItems

end Balance

end Loyalty
