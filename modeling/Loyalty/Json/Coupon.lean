import Loyalty.Coupon
import Loyalty.Json.Identifiers
import Loyalty.Json.Validity

/-!
# Coupons in JSON

A coupon is a record. Its details are the same object with the status beside the other members;
they have no form as a list.
-/

namespace Loyalty

namespace Coupon

def members (c : Coupon) : List (String × Json) :=
  [("id", c.id.toJson), ("restaurant_id", c.restaurantId.toJson), ("name", .string c.name),
    ("description", .string c.description), ("points", Json.ofAmount c.points),
    ("level", Json.ofAmount c.level), ("validity", c.validity.toJson), ("deleted", .bool c.deleted)]

def toJson (c : Coupon) : Json := .object c.members

def ofMembers (form : Json.TagForm) (members : List (String × Json)) :
    Except Unreadable Coupon := do
  let deleted ← Json.member? members "deleted" Json.readBool
  let description ← Json.member? members "description" Json.readString
  let id ← Json.member? members "id" CouponId.ofJson
  let level ← Json.member? members "level" Json.readAmount
  let name ← Json.member? members "name" Json.readString
  let points ← Json.member? members "points" Json.readAmount
  let restaurantId ← Json.member? members "restaurant_id" RestaurantId.ofJson
  let validity ← Json.member? members "validity" (Validity.ofTagged form)
  .ok ⟨← Json.present id, ← Json.present restaurantId, ← Json.present name,
    ← Json.present description, ← Json.present points, ← Json.present level,
    ← Json.present validity, ← Json.present deleted⟩

def ofItems (items : List Json) : Except Unreadable Coupon := do
  let (id, items) ← Json.item CouponId.ofJson items
  let (restaurantId, items) ← Json.item RestaurantId.ofJson items
  let (name, items) ← Json.item Json.readString items
  let (description, items) ← Json.item Json.readString items
  let (points, items) ← Json.item Json.readAmount items
  let (level, items) ← Json.item Json.readAmount items
  let (validity, items) ← Json.item Validity.ofJson items
  let (deleted, items) ← Json.item Json.readBool items
  Json.noMore items
  .ok ⟨id, restaurantId, name, description, points, level, validity, deleted⟩

def ofJson : Json.Reader Coupon := Json.readRecord (ofMembers .named) ofItems

end Coupon

namespace CouponDetails

def toJson (d : CouponDetails) : Json :=
  .object (d.coupon.members ++ [("status", d.status.toJson)])

def ofJson : Json.Reader CouponDetails
  | .object members => do
    let status ← Json.member? members "status" WindowStatus.ofJson
    let status ← Json.present status
    .ok ⟨← Coupon.ofMembers .numbered members, status⟩
  | _ => .error .malformed

end CouponDetails

end Loyalty
