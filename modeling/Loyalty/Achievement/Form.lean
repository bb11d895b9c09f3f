import Loyalty.Achievement
import Loyalty.Report
import Loyalty.Requirement.Compact

/-!
# Achievement forms

The checks that a new achievement has to pass. A form may give its requirement in the compact form
instead; a compact form that cannot be read is reported after the checks of the other fields.
-/

namespace Loyalty

inductive AchievementComplaint where
  | nameMissing
  | negativeExperience
  | negativePoints
  | targetNotPositive
  | itemMissing
  | unreadable (fault : CompactFault)
  deriving DecidableEq, Repr

namespace AchievementComplaint

def message : AchievementComplaint → String
  | .nameMissing => "Invalid achievement name, please give your achievement a name."
  | .negativeExperience => "Invalid amount for experience."
  | .negativePoints => "Invalid amount for points."
  | .targetNotPositive => "Invalid requirement amount, please give a positive value."
  | .itemMissing => "Missing item for the achievement requirement."
  | .unreadable fault => fault.message

end AchievementComplaint

def Goal.lacksItem : Goal → Bool
  | .purchase item _ => item == ""
  | .visit _ => false

/-- The checks of everything but the requirement. -/
def achievementFieldReport (name : String) (experience points : Amount) :
    Report AchievementComplaint :=
  Report.empty
    |>.check (name == "") .nameMissing
    |>.check (decide (experience < 0)) .negativeExperience
    |>.check (decide (points < 0)) .negativePoints

def NewAchievement.report (input : NewAchievement) : Report AchievementComplaint :=
  achievementFieldReport input.name input.experience input.points
    |>.check (decide (input.requirement.target < 1)) .targetNotPositive
    |>.check input.requirement.goal.lacksItem .itemMissing

structure CompactAchievement where
  restaurantId : RestaurantId
  name : String
  experience : Amount
  points : Amount
  typeCode : Amount
  value : String
  deriving DecidableEq, Repr

namespace CompactAchievement

def expand (form : CompactAchievement) : Except (Report AchievementComplaint) NewAchievement :=
  match Requirement.ofCompact form.typeCode form.value with
  | .error fault =>
    .error ((achievementFieldReport form.name form.experience form.points).push
      (.unreadable fault))
  | .ok requirement =>
    .ok ⟨form.restaurantId, form.name, form.experience, form.points, requirement⟩

end CompactAchievement

end Loyalty
