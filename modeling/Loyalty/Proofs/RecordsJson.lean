import Loyalty.Json.Achievement
import Loyalty.Json.Coupon
import Loyalty.Json.Restaurant
import Loyalty.Json.User
import Loyalty.Proofs.RequirementJson

/-!
# Records are read back from JSON

What is written for a record is read as the same again. Each member is found under its own name,
also in an object that is shared with another record or with a tag.
-/

namespace Loyalty

namespace Json

theorem readString_string (s : String) : readString (.string s) = .ok s := rfl

theorem member?_of_lookup {α : Type} {reader : Reader α} {members : List (String × Json)}
    {name : String} {j : Json} {a : α} (hmember : members.lookup name = some j)
    (hread : reader j = .ok a) : member? members name reader = .ok (some a) := by
  rw [member?, hmember]
  exact congrArg (Except.map some) hread

end Json

open Json (member?_of_lookup readAmount_ofAmount readString_string)

theorem Restaurant.ofJson_toJson (r : Restaurant) : ofJson r.toJson = .ok r := by
  change ofMembers [("id", r.id.toJson), ("name", .string r.name),
    ("address", .string r.address)] = _
  rw [ofMembers, member?_of_lookup rfl (readString_string r.address),
    member?_of_lookup rfl r.id.ofJson_toJson, member?_of_lookup rfl (readString_string r.name)]
  rfl

theorem Profile.ofJson_toJson (p : Profile) : ofJson p.toJson = .ok p := by
  change ofMembers [("id", p.id.toJson), ("name", .string p.name), ("email", .string p.email)] = _
  rw [ofMembers, member?_of_lookup rfl (readString_string p.email),
    member?_of_lookup rfl p.id.ofJson_toJson, member?_of_lookup rfl (readString_string p.name)]
  rfl

theorem Balance.ofJson_toJson (b : Balance) : ofJson b.toJson = .ok b := by
  change ofMembers b.members = _
  rw [ofMembers, member?_of_lookup rfl (readAmount_ofAmount b.experience),
    member?_of_lookup rfl (readAmount_ofAmount b.points),
    member?_of_lookup rfl b.restaurantId.ofJson_toJson,
    member?_of_lookup rfl b.userId.ofJson_toJson]
  rfl

theorem Reward.ofJson_toJson (r : Reward) : ofJson r.toJson = .ok r := by
  change ofMembers [("restaurant_id", r.restaurantId.toJson), ("points", Json.ofAmount r.points),
    ("experience", Json.ofAmount r.experience)] = _
  rw [ofMembers, member?_of_lookup rfl (readAmount_ofAmount r.experience),
    member?_of_lookup rfl (readAmount_ofAmount r.points),
    member?_of_lookup rfl r.restaurantId.ofJson_toJson]
  rfl

theorem Progress.ofJson_toJson (p : Progress) : ofJson p.toJson = .ok p := by
  change ofMembers p.members = _
  rw [ofMembers, member?_of_lookup rfl p.achievementId.ofJson_toJson,
    member?_of_lookup rfl (readAmount_ofAmount p.progress),
    member?_of_lookup rfl (readAmount_ofAmount p.total),
    member?_of_lookup rfl p.userId.ofJson_toJson]
  rfl

/-- The tag of an outcome is none of the members beside it. -/
theorem Outcome.ofJson_toJson (o : Outcome) : ofJson o.toJson = .ok o := by
  cases o with
  | advanced row =>
    rw [ofJson, toJson, Json.readTagged_cons (by decide) (by simp [Progress.members])]
    change (Progress.ofJson row.toJson >>= fun row => .ok (advanced row)) = _
    rw [Progress.ofJson_toJson]
    rfl
  | completed userId achievementId reward =>
    rw [ofJson, toJson, Json.readTagged_cons (by decide) (by simp)]
    change completedOfMembers [("user_id", userId.toJson),
      ("achievement_id", achievementId.toJson), ("reward", reward.toJson)] = _
    rw [completedOfMembers, member?_of_lookup rfl achievementId.ofJson_toJson,
      member?_of_lookup rfl reward.ofJson_toJson, member?_of_lookup rfl userId.ofJson_toJson]
    rfl

/-- A coupon is read from its members, whatever stands after them. -/
theorem Coupon.ofMembers_members (form : Json.TagForm) (c : Coupon)
    (others : List (String × Json)) : ofMembers form (c.members ++ others) = .ok c := by
  have hdeleted : Json.readBool (.bool c.deleted) = .ok c.deleted := rfl
  rw [ofMembers, member?_of_lookup rfl hdeleted,
    member?_of_lookup rfl (readString_string c.description),
    member?_of_lookup rfl c.id.ofJson_toJson, member?_of_lookup rfl (readAmount_ofAmount c.level),
    member?_of_lookup rfl (readString_string c.name),
    member?_of_lookup rfl (readAmount_ofAmount c.points),
    member?_of_lookup rfl c.restaurantId.ofJson_toJson,
    member?_of_lookup rfl (c.validity.ofTagged_toJson form)]
  rfl

theorem Coupon.ofJson_toJson (c : Coupon) : ofJson c.toJson = .ok c := by
  have h := c.ofMembers_members .named []
  rwa [List.append_nil] at h

theorem WindowStatus.ofJson_toJson (s : WindowStatus) : ofJson s.toJson = .ok s := by
  cases s <;> rfl

theorem CouponDetails.ofJson_toJson (d : CouponDetails) : ofJson d.toJson = .ok d := by
  rw [toJson, ofJson, member?_of_lookup rfl d.status.ofJson_toJson, Coupon.ofMembers_members]
  rfl

/-- An achievement is read from its members, whatever stands after them. -/
theorem Achievement.ofMembers_members (form : Json.TagForm) (a : Achievement)
    (others : List (String × Json)) : ofMembers form (a.members ++ others) = .ok a := by
  rw [ofMembers, member?_of_lookup rfl (readAmount_ofAmount a.experience),
    member?_of_lookup rfl a.id.ofJson_toJson, member?_of_lookup rfl (readString_string a.name),
    member?_of_lookup rfl (readAmount_ofAmount a.points),
    member?_of_lookup rfl (a.requirement.ofTagged_toJson form),
    member?_of_lookup rfl a.restaurantId.ofJson_toJson]
  rfl

theorem Achievement.ofJson_toJson (a : Achievement) : ofJson a.toJson = .ok a := by
  have h := a.ofMembers_members .named []
  rwa [List.append_nil] at h

theorem AchievementProgress.ofJson_toJson (a : AchievementProgress) : ofJson a.toJson = .ok a := by
  rw [toJson, ofJson, member?_of_lookup rfl (readAmount_ofAmount a.progress),
    member?_of_lookup rfl (readAmount_ofAmount a.total), Achievement.ofMembers_members]
  rfl

end Loyalty
