import Loyalty.Achievement
import Loyalty.Json.Identifiers
import Loyalty.Json.Requirement

/-!
# Achievements and progress in JSON

Achievements, progress rows and rewards are records. An achievement with progress is one object
that holds the members of both, and an outcome carries the tag `outcome`.
-/

namespace Loyalty

namespace Reward

def toJson (r : Reward) : Json :=
  .object [("restaurant_id", r.restaurantId.toJson), ("points", Json.ofAmount r.points),
    ("experience", Json.ofAmount r.experience)]

def ofMembers (members : List (String × Json)) : Except Unreadable Reward := do
  let experience ← Json.member? members "experience" Json.readAmount
  let points ← Json.member? members "points" Json.readAmount
  let restaurantId ← Json.member? members "restaurant_id" RestaurantId.ofJson
  .ok ⟨← Json.present restaurantId, ← Json.present points, ← Json.present experience⟩

def ofItems (items : List Json) : Except Unreadable Reward := do
  let (restaurantId, items) ← Json.item RestaurantId.ofJson items
  let (points, items) ← Json.item Json.readAmount items
  let (experience, items) ← Json.item Json.readAmount items
  Json.noMore items
  .ok ⟨restaurantId, points, experience⟩

def ofJson : Json.Reader Reward := Json.readRecord ofMembers ofItems

end Reward

namespace Achievement

def members (a : Achievement) : List (String × Json) :=
  [("id", a.id.toJson), ("restaurant_id", a.restaurantId.toJson), ("name", .string a.name),
    ("experience", Json.ofAmount a.experience), ("points", Json.ofAmount a.points),
    ("requirement", a.requirement.toJson)]

def toJson (a : Achievement) : Json := .object a.members

def ofMembers (form : Json.TagForm) (members : List (String × Json)) :
    Except Unreadable Achievement := do
  let experience ← Json.member? members "experience" Json.readAmount
  let id ← Json.member? members "id" AchievementId.ofJson
  let name ← Json.member? members "name" Json.readString
  let points ← Json.member? members "points" Json.readAmount
  let requirement ← Json.member? members "requirement" (Requirement.ofTagged form)
  let restaurantId ← Json.member? members "restaurant_id" RestaurantId.ofJson
  .ok ⟨← Json.present id, ← Json.present restaurantId, ← Json.present name,
    ← Json.present experience, ← Json.present points, ← Json.present requirement⟩

def ofItems (items : List Json) : Except Unreadable Achievement := do
  let (id, items) ← Json.item AchievementId.ofJson items
  let (restaurantId, items) ← Json.item RestaurantId.ofJson items
  let (name, items) ← Json.item Json.readString items
  let (experience, items) ← Json.item Json.readAmount items
  let (points, items) ← Json.item Json.readAmount items
  let (requirement, items) ← Json.item Requirement.ofJson items
  Json.noMore items
  .ok ⟨id, restaurantId, name, experience, points, requirement⟩

def ofJson : Json.Reader Achievement := Json.readRecord (ofMembers .named) ofItems

end Achievement

namespace AchievementProgress

def toJson (a : AchievementProgress) : Json :=
  .object (a.achievement.members ++
    [("progress", Json.ofAmount a.progress), ("total", Json.ofAmount a.total)])

def ofJson : Json.Reader AchievementProgress
  | .object members => do
    let progress ← Json.member? members "progress" Json.readAmount
    let total ← Json.member? members "total" Json.readAmount
    let progress ← Json.present progress
    let total ← Json.present total
    .ok ⟨← Achievement.ofMembers .numbered members, progress, total⟩
  | _ => .error .malformed

end AchievementProgress

namespace Progress

def members (p : Progress) : List (String × Json) :=
  [("user_id", p.userId.toJson), ("achievement_id", p.achievementId.toJson),
    ("progress", Json.ofAmount p.progress), ("total", Json.ofAmount p.total)]

def toJson (p : Progress) : Json := .object p.members

def ofMembers (members : List (String × Json)) : Except Unreadable Progress := do
  let achievementId ← Json.member? members "achievement_id" AchievementId.ofJson
  let progress ← Json.member? members "progress" Json.readAmount
  let total ← Json.member? members "total" Json.readAmount
  let userId ← Json.member? members "user_id" UserId.ofJson
  .ok ⟨← Json.present userId, ← Json.present achievementId, ← Json.present progress,
    ← Json.present total⟩

def ofItems (items : List Json) : Except Unreadable Progress := do
  let (userId, items) ← Json.item UserId.ofJson items
  let (achievementId, items) ← Json.item AchievementId.ofJson items
  let (progress, items) ← Json.item Json.readAmount items
  let (total, items) ← Json.item Json.readAmount items
  Json.noMore items
  .ok ⟨userId, achievementId, progress, total⟩

def ofJson : Json.Reader Progress := Json.readRecord ofMembers ofItems

end Progress

namespace Outcome

def toJson : Outcome → Json
  | .advanced row => .object (("outcome", .string "advanced") :: row.members)
  | .completed userId achievementId reward => .object
      [("outcome", .string "completed"), ("user_id", userId.toJson),
        ("achievement_id", achievementId.toJson), ("reward", reward.toJson)]

def completedOfMembers (members : List (String × Json)) : Except Unreadable Outcome := do
  let achievementId ← Json.member? members "achievement_id" AchievementId.ofJson
  let reward ← Json.member? members "reward" Reward.ofJson
  let userId ← Json.member? members "user_id" UserId.ofJson
  .ok (.completed (← Json.present userId) (← Json.present achievementId) (← Json.present reward))

def completedOfItems (items : List Json) : Except Unreadable Outcome := do
  let (userId, items) ← Json.item UserId.ofJson items
  let (achievementId, items) ← Json.item AchievementId.ofJson items
  let (reward, items) ← Json.item Reward.ofJson items
  Json.noMore items
  .ok (.completed userId achievementId reward)

def kinds : List String := ["advanced", "completed"]

def ofJson : Json.Reader Outcome := fun j => do
  let (outcome, rest) ← Json.readTagged .named "outcome" kinds j
  if outcome = "advanced" then .ok (.advanced (← Progress.ofJson rest))
  else Json.readRecord completedOfMembers completedOfItems rest

end Outcome

end Loyalty
