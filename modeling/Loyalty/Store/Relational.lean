import Loyalty.Json.Requirement
import Loyalty.Store.Keys
import Loyalty.Store.Script

/-!
# The relational store

Six tables of columns. Each table has its own sequence of identifiers, references between tables
are enforced, a requirement is kept as JSON, a validity as two optional days and an account type as
its code. Balances are wider than amounts, so a balance may be stored that cannot be read; a credit
or a debit reads what it wrote and is undone where that fails. A row that does not stand for a
domain value makes every read of it fail.
-/

namespace Loyalty

structure UserRow where
  id : UserId
  name : String
  email : String
  passwordDigest : String
  accountCode : Amount

structure CouponRow where
  id : CouponId
  restaurantId : RestaurantId
  name : String
  description : String
  points : Amount
  level : Amount
  opens : Option Date
  closes : Option Date
  deleted : Bool

structure AchievementRow where
  id : AchievementId
  restaurantId : RestaurantId
  name : String
  experience : Amount
  points : Amount
  requirement : Json

structure BalanceRow where
  userId : UserId
  restaurantId : RestaurantId
  points : Int
  experience : Int

instance : Keyed UserRow UserId := ⟨UserRow.id⟩

instance : Keyed CouponRow CouponId := ⟨CouponRow.id⟩

instance : Keyed AchievementRow AchievementId := ⟨AchievementRow.id⟩

instance : Keyed BalanceRow (UserId × RestaurantId) := ⟨fun b => (b.userId, b.restaurantId)⟩

namespace UserRow

def read (row : UserRow) : Except StoreError User :=
  match AccountType.ofCode? row.accountCode with
  | none => .error (.unknownAccountType row.id row.accountCode)
  | some accountType => .ok ⟨row.id, row.name, row.email, row.passwordDigest, accountType⟩

end UserRow

namespace CouponRow

def read (row : CouponRow) : Except StoreError Coupon :=
  match Validity.ofEnds? row.opens row.closes with
  | none => .error (.invalidWindow row.id)
  | some validity =>
    .ok ⟨row.id, row.restaurantId, row.name, row.description, row.points, row.level, validity,
      row.deleted⟩

end CouponRow

namespace AchievementRow

def read (row : AchievementRow) : Except StoreError Achievement :=
  match Requirement.ofJson row.requirement with
  | .error _ => .error (.unreadableRequirement row.id)
  | .ok requirement =>
    .ok ⟨row.id, row.restaurantId, row.name, row.experience, row.points, requirement⟩

end AchievementRow

namespace BalanceRow

def readColumn (column : BalanceColumn) (value : Int) : Except StoreError Amount :=
  match Amount.ofInt? value with
  | some amount => .ok amount
  | none => .error (.unreadableBalance column (if value < 0 then .tooSmall else .tooLarge))

def read (row : BalanceRow) : Except StoreError Balance := do
  let points ← readColumn .points row.points
  let experience ← readColumn .experience row.experience
  .ok ⟨row.userId, row.restaurantId, points, experience⟩

end BalanceRow

/-- Reads all rows, or fails at the first that cannot be read. -/
def readRows {ρ α : Type} (read : ρ → Except StoreError α) : List ρ → Except StoreError (List α)
  | [] => .ok []
  | row :: rows => do
    let a ← read row
    let as ← readRows read rows
    .ok (a :: as)

def readRow {ρ α : Type} (read : ρ → Except StoreError α) :
    Option ρ → Except StoreError (Option α)
  | none => .ok none
  | some row => (read row).map some

structure Relational where
  lastUser : Nat
  lastRestaurant : Nat
  lastCoupon : Nat
  lastAchievement : Nat
  users : Table UserRow
  restaurants : Table Restaurant
  coupons : Table CouponRow
  achievements : Table AchievementRow
  progress : Table Progress
  balances : Table BalanceRow

namespace Relational

def empty : Relational := ⟨0, 0, 0, 0, .empty, .empty, .empty, .empty, .empty, .empty⟩

def createUser (input : NewUser) (s : Relational) : Except StoreError User × Relational :=
  if s.users.rows.any fun u => u.email == input.email then (.error .duplicateEmail, s)
  else
    let row : UserRow :=
      ⟨⟨Int32.ofNat (s.lastUser + 1)⟩, input.name, input.email, input.passwordDigest,
        input.accountType.code⟩
    (row.read, { s with lastUser := s.lastUser + 1, users := s.users.put row })

def findUserByEmail (email : String) (s : Relational) : Except StoreError (Option User) :=
  readRow UserRow.read (s.users.rows.find? fun u => u.email == email)

def findUserByCredentials (email passwordDigest : String) (s : Relational) :
    Except StoreError (Option User) :=
  readRow UserRow.read
    (s.users.rows.find? fun u => u.email == email && u.passwordDigest == passwordDigest)

/-- Changes the account code of a user, unread. -/
def setAccountCode (id : UserId) (code : Amount) (s : Relational) : Bool × Relational :=
  match s.users.find? id with
  | none => (false, s)
  | some row => (true, { s with users := s.users.put { row with accountCode := code } })

def createRestaurant (input : NewRestaurant) (s : Relational) : Restaurant × Relational :=
  let row : Restaurant := ⟨⟨Int32.ofNat (s.lastRestaurant + 1)⟩, input.name, input.address⟩
  (row, { s with lastRestaurant := s.lastRestaurant + 1, restaurants := s.restaurants.put row })

def createCoupon (input : NewCoupon) (s : Relational) : Except StoreError Coupon × Relational :=
  match s.restaurants.find? input.restaurantId with
  | none => (.error .missingReference, s)
  | some _ =>
    let row : CouponRow :=
      ⟨⟨Int32.ofNat (s.lastCoupon + 1)⟩, input.restaurantId, input.name, input.description,
        input.points, input.level, input.validity.opens?, input.validity.closes?, false⟩
    (row.read, { s with lastCoupon := s.lastCoupon + 1, coupons := s.coupons.put row })

def findCouponWithRestaurant (id : CouponId) (s : Relational) :
    Except StoreError (Option (Coupon × Option Restaurant)) := do
  let coupon ← readRow CouponRow.read (s.coupons.find? id)
  .ok (coupon.map fun c => (c, s.restaurants.find? c.restaurantId))

def listCoupons (restaurantId : RestaurantId) (s : Relational) :
    Except StoreError (List Coupon) :=
  readRows CouponRow.read (s.coupons.rows.filter fun c => c.restaurantId = restaurantId)

def markDeleted (id : CouponId) (s : Relational) : Bool × Relational :=
  match s.coupons.find? id with
  | none => (false, s)
  | some row => (true, { s with coupons := s.coupons.put { row with deleted := true } })

def setCouponDates (id : CouponId) (opens closes : Option Date) (s : Relational) :
    Bool × Relational :=
  match s.coupons.find? id with
  | none => (false, s)
  | some row =>
    (true, { s with coupons := s.coupons.put { row with opens := opens, closes := closes } })

def findBalance (userId : UserId) (restaurantId : RestaurantId) (s : Relational) :
    Except StoreError (Option Balance) :=
  readRow BalanceRow.read (s.balances.find? (userId, restaurantId))

def listBalances (userId : UserId) (s : Relational) : Except StoreError (List Balance) :=
  readRows BalanceRow.read (s.balances.rows.filter fun b => b.userId = userId)

/-- The balance row of a pair after a credit; a new row needs its user and its restaurant. -/
def creditedRow (userId : UserId) (restaurantId : RestaurantId) (points experience : Amount)
    (s : Relational) : Except StoreError BalanceRow :=
  match s.balances.find? (userId, restaurantId) with
  | some row =>
    .ok { row with
      points := row.points + points.toInt,
      experience := row.experience + experience.toInt }
  | none =>
    match s.users.find? userId, s.restaurants.find? restaurantId with
    | some _, some _ => .ok ⟨userId, restaurantId, points.toInt, experience.toInt⟩
    | _, _ => .error .missingReference

/-- Writes a balance row, unless it cannot be read back. -/
def commitBalance (row : BalanceRow) (s : Relational) : Except StoreError Balance × Relational :=
  match row.read with
  | .error e => (.error e, s)
  | .ok balance => (.ok balance, { s with balances := s.balances.put row })

def credit (userId : UserId) (restaurantId : RestaurantId) (points experience : Amount)
    (s : Relational) : Except StoreError Balance × Relational :=
  match s.creditedRow userId restaurantId points experience with
  | .error e => (.error e, s)
  | .ok row => s.commitBalance row

def debit (userId : UserId) (restaurantId : RestaurantId) (points : Amount) (s : Relational) :
    Except StoreError (Option Balance) × Relational :=
  match s.balances.find? (userId, restaurantId) with
  | none => (.ok none, s)
  | some row =>
    if row.points < points.toInt then (.ok none, s)
    else
      match s.commitBalance { row with points := row.points - points.toInt } with
      | (.error e, s) => (.error e, s)
      | (.ok balance, s) => (.ok (some balance), s)

def createAchievement (input : NewAchievement) (s : Relational) :
    Except StoreError Achievement × Relational :=
  match s.restaurants.find? input.restaurantId with
  | none => (.error .missingReference, s)
  | some _ =>
    let row : AchievementRow :=
      ⟨⟨Int32.ofNat (s.lastAchievement + 1)⟩, input.restaurantId, input.name, input.experience,
        input.points, input.requirement.toJson⟩
    (row.read,
      { s with
        lastAchievement := s.lastAchievement + 1,
        achievements := s.achievements.put row })

def listAchievements (restaurantId : RestaurantId) (s : Relational) :
    Except StoreError (List Achievement) :=
  readRows AchievementRow.read
    (s.achievements.rows.filter fun a => a.restaurantId = restaurantId)

def setRequirement (id : AchievementId) (requirement : Json) (s : Relational) :
    Bool × Relational :=
  match s.achievements.find? id with
  | none => (false, s)
  | some row =>
    (true, { s with achievements := s.achievements.put { row with requirement := requirement } })

def deleteAchievement (id : AchievementId) (s : Relational) : Bool × Relational :=
  ((s.achievements.find? id).isSome,
    { s with
      achievements := s.achievements.erase id,
      progress := s.progress.filter fun p => p.achievementId ≠ id })

def listProgress (userId : UserId) (s : Relational) : List Progress :=
  s.progress.rows.filter fun p => p.userId = userId

def createProgress (achievementId : AchievementId) (userId : UserId) (total : Amount)
    (s : Relational) : Except StoreError Progress × Relational :=
  match s.progress.find? (userId, achievementId) with
  | some _ => (.error .duplicateProgress, s)
  | none =>
    match s.achievements.find? achievementId, s.users.find? userId with
    | some _, some _ =>
      let row : Progress := ⟨userId, achievementId, 0, total⟩
      (.ok row, { s with progress := s.progress.put row })
    | _, _ => (.error .missingReference, s)

def setProgress (achievementId : AchievementId) (userId : UserId) (progress total : Amount)
    (s : Relational) : Bool × Relational :=
  match s.progress.find? (userId, achievementId) with
  | none => (false, s)
  | some row =>
    (true, { s with progress := s.progress.put { row with progress := progress, total := total } })

def increment (achievementId : AchievementId) (userId : UserId) (s : Relational) :
    Option Progress × Relational :=
  match s.progress.find? (userId, achievementId) with
  | none => (none, s)
  | some row =>
    if row.progress < row.total then
      let row := { row with progress := row.progress + 1 }
      (some row, { s with progress := s.progress.put row })
    else (none, s)

/-- Exchanges a stored row that is exactly full for its reward. The balance is not read back. -/
def complete (row : Progress) (reward : Reward) (s : Relational) :
    Except StoreError Bool × Relational :=
  match s.progress.find? (row.userId, row.achievementId) with
  | none => (.ok false, s)
  | some stored =>
    if stored.progress = stored.total then
      match s.creditedRow row.userId reward.restaurantId reward.points reward.experience with
      | .error e => (.error e, s)
      | .ok balance =>
        (.ok true,
          { s with
            progress := s.progress.erase (row.userId, row.achievementId),
            balances := s.balances.put balance })
    else (.ok false, s)

def handle : Handler Relational
  | .createUser input, s => s.createUser input
  | .findUser id, s => (readRow UserRow.read (s.users.find? id), s)
  | .findUserByEmail email, s => (s.findUserByEmail email, s)
  | .findUserByCredentials email digest, s => (s.findUserByCredentials email digest, s)
  | .setAccountType id accountType, s => answered (s.setAccountCode id accountType.code)
  | .createRestaurant input, s => answered (s.createRestaurant input)
  | .findRestaurant id, s => (.ok (s.restaurants.find? id), s)
  | .createCoupon input, s => s.createCoupon input
  | .findCoupon id, s => (readRow CouponRow.read (s.coupons.find? id), s)
  | .findCouponWithRestaurant id, s => (s.findCouponWithRestaurant id, s)
  | .listCoupons restaurantId, s => (s.listCoupons restaurantId, s)
  | .markDeleted id, s => answered (s.markDeleted id)
  | .findBalance userId restaurantId, s => (s.findBalance userId restaurantId, s)
  | .listBalances userId, s => (s.listBalances userId, s)
  | .credit userId restaurantId points experience, s =>
    s.credit userId restaurantId points experience
  | .debit userId restaurantId points, s => s.debit userId restaurantId points
  | .createAchievement input, s => s.createAchievement input
  | .findAchievement id, s => (readRow AchievementRow.read (s.achievements.find? id), s)
  | .listAchievements restaurantId, s => (s.listAchievements restaurantId, s)
  | .deleteAchievement id, s => answered (s.deleteAchievement id)
  | .listProgress userId, s => (.ok (s.listProgress userId), s)
  | .findProgress achievementId userId, s => (.ok (s.progress.find? (userId, achievementId)), s)
  | .createProgress achievementId userId total, s => s.createProgress achievementId userId total
  | .increment achievementId userId, s => answered (s.increment achievementId userId)
  | .complete row reward, s => s.complete row reward

end Relational

end Loyalty
