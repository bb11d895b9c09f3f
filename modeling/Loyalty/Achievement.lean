import Loyalty.Requirement

/-!
# Achievements and progress

A user works towards an achievement by actions that are counted in a progress row. A full row is
exchanged for the reward.
-/

namespace Loyalty

structure Reward where
  restaurantId : RestaurantId
  points : Amount
  experience : Amount
  deriving DecidableEq, Repr

structure Achievement where
  id : AchievementId
  restaurantId : RestaurantId
  name : String
  experience : Amount
  points : Amount
  requirement : Requirement
  deriving DecidableEq, Repr

namespace Achievement

def target (a : Achievement) : Amount := a.requirement.target

def reward (a : Achievement) : Reward := ⟨a.restaurantId, a.points, a.experience⟩

end Achievement

structure NewAchievement where
  restaurantId : RestaurantId
  name : String
  experience : Amount
  points : Amount
  requirement : Requirement
  deriving DecidableEq, Repr

structure Progress where
  userId : UserId
  achievementId : AchievementId
  progress : Amount
  total : Amount
  deriving DecidableEq, Repr

def Progress.isComplete (p : Progress) : Bool := decide (p.total ≤ p.progress)

structure AchievementProgress where
  achievement : Achievement
  progress : Amount
  total : Amount
  deriving DecidableEq, Repr

def Achievement.unstarted (a : Achievement) : AchievementProgress := ⟨a, 0, a.target⟩

/-- What counting an action came to. -/
inductive Outcome where
  | advanced (row : Progress)
  | completed (userId : UserId) (achievementId : AchievementId) (reward : Reward)
  deriving DecidableEq, Repr

end Loyalty
