import Loyalty.Achievement.Form
import Loyalty.Store.Script

/-!
# The offer of achievements

Achievements are created, listed and deleted, and progress towards them is counted, by scripts over
a store. Whoever counts the last action, or finds a row full, completes the achievement: the row is
exchanged for the reward, at most once however many scripts take turns.
-/

namespace Loyalty

inductive AchievementError where
  | invalid (report : Report AchievementComplaint)
  | notFound (id : AchievementId)
  | progressNotFound (achievementId : AchievementId) (userId : UserId)
  | alreadyCompleted (achievementId : AchievementId) (userId : UserId)
  | unfinished (achievementId : AchievementId) (userId : UserId)
  | inactive (id : AchievementId)
  | store (e : StoreError)
  deriving DecidableEq, Repr

namespace AchievementError

def message : AchievementError → String
  | .invalid report => "invalid achievement: " ++ (report.map AchievementComplaint.message).text
  | .notFound id => "achievement not found: " ++ toString id
  | .progressNotFound achievementId userId =>
    "no progress for user " ++ toString userId ++ " on achievement " ++ toString achievementId
  | .alreadyCompleted achievementId userId =>
    "achievement " ++ toString achievementId ++ " was already completed for user " ++
      toString userId
  | .unfinished achievementId userId =>
    "progress for user " ++ toString userId ++ " on achievement " ++ toString achievementId ++
      " is not finished"
  | .inactive id => "achievement " ++ toString id ++ " is not active"
  | .store e => e.message

def failure (e : AchievementError) : Failure :=
  match e with
  | .invalid report => .validation (report.map AchievementComplaint.message)
  | .notFound _ => .notFound e.message
  | .progressNotFound .. => .notFound e.message
  | .alreadyCompleted .. => .conflict e.message
  | .unfinished .. => .businessRule e.message
  | .inactive _ => .businessRule e.message
  | .store e => e.failure

end AchievementError

def Achievement.listUnstarted (achievements : List Achievement) (rows : List Progress) :
    List AchievementProgress :=
  (achievements.filter fun a => !rows.any fun p => p.achievementId = a.id).map unstarted

namespace Achievements

def create (input : NewAchievement) : Script AchievementError Achievement :=
  match input.report.verdict with
  | .error report => .fail (.invalid report)
  | .ok () => Script.ask .store (.createAchievement input)

def createCompact (form : CompactAchievement) : Script AchievementError Achievement :=
  match form.expand with
  | .error report => .fail (.invalid report)
  | .ok input => create input

def delete (id : AchievementId) : Script AchievementError Unit := do
  let found ← Script.ask .store (.deleteAchievement id)
  Script.require found (.notFound id)

def get (id : AchievementId) : Script AchievementError Achievement := do
  let achievement ← Script.ask .store (.findAchievement id)
  Script.ofOption (.notFound id) achievement

def list (restaurantId : RestaurantId) : Script AchievementError (List Achievement) :=
  Script.ask .store (.listAchievements restaurantId)

def listActive (today : Date) (restaurantId : RestaurantId) :
    Script AchievementError (List Achievement) := do
  let achievements ← list restaurantId
  pure (achievements.filter fun a => !a.requirement.validity.hasEndedOn today)

def progressOf (userId : UserId) : Script AchievementError (List Progress) :=
  Script.ask .store (.listProgress userId)

def unstarted (achievements : List Achievement) (userId : UserId) :
    Script AchievementError (List AchievementProgress) := do
  let rows ← progressOf userId
  pure (Achievement.listUnstarted achievements rows)

def findProgress (achievementId : AchievementId) (userId : UserId) :
    Script AchievementError Progress := do
  let row ← Script.ask .store (.findProgress achievementId userId)
  Script.ofOption (.progressNotFound achievementId userId) row

def reward (id : AchievementId) : Script AchievementError Reward := do
  let achievement ← get id
  pure achievement.reward

def complete (row : Progress) : Script AchievementError Reward := do
  Script.require row.isComplete (.unfinished row.achievementId row.userId)
  let reward ← reward row.achievementId
  let paid ← Script.ask .store (.complete row reward)
  Script.require paid (.alreadyCompleted row.achievementId row.userId)
  pure reward

/-- The row after one more action. A row that counts no more is taken as it is where it is full. -/
def count (achievementId : AchievementId) (userId : UserId) : Script AchievementError Progress := do
  let counted ← Script.ask .store (.increment achievementId userId)
  match (counted : Option Progress) with
  | some row => pure row
  | none => do
    let row ← findProgress achievementId userId
    Script.require row.isComplete (.progressNotFound achievementId userId)
    pure row

def advance (row : Progress) : Script AchievementError Outcome := do
  let counted ← count row.achievementId row.userId
  if counted.isComplete then do
    let reward ← complete counted
    pure (.completed row.userId row.achievementId reward)
  else pure (.advanced counted)

/-- Creates a row, or finds the one that was created in the meantime. -/
def start (achievementId : AchievementId) (userId : UserId) (total : Amount) :
    Script AchievementError Progress :=
  .call (.createProgress achievementId userId total) fun
    | .ok row => .done row
    | .error e =>
      if e.kind = .conflict then findProgress achievementId userId else .fail (.store e)

def record (today : Date) (userId : UserId) (achievementId : AchievementId) :
    Script AchievementError Outcome := do
  let achievement ← get achievementId
  Script.require (achievement.requirement.statusOn today == .active) (.inactive achievementId)
  let found ← Script.ask .store (.findProgress achievementId userId)
  let row ←
    match (found : Option Progress) with
    | some row => pure row
    | none => start achievementId userId achievement.target
  advance row

end Achievements

end Loyalty
