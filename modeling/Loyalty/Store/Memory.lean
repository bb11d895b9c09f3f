import Loyalty.Store.Keys
import Loyalty.Store.Script

/-!
# The store in memory

Six tables of domain values. One sequence of identifiers serves all tables, and balances are kept
within the range of amounts: a credit or a debit that would leave it changes nothing.
-/

namespace Loyalty

structure Memory where
  created : Nat
  users : Table User
  restaurants : Table Restaurant
  coupons : Table Coupon
  achievements : Table Achievement
  progress : Table Progress
  balances : Table Balance

namespace Memory

def empty : Memory := ⟨0, .empty, .empty, .empty, .empty, .empty, .empty⟩

def nextId (s : Memory) : Amount := Int32.ofNat (s.created + 1)

def createUser (input : NewUser) (s : Memory) : Except StoreError User × Memory :=
  if s.users.rows.any fun u => u.email == input.email then (.error (.emailTaken input.email), s)
  else
    let user : User :=
      ⟨⟨s.nextId⟩, input.name, input.email, input.passwordDigest, input.accountType⟩
    (.ok user, { s with created := s.created + 1, users := s.users.put user })

def findUserByEmail (email : String) (s : Memory) : Option User :=
  s.users.rows.find? fun u => u.email == email

def findUserByCredentials (email passwordDigest : String) (s : Memory) : Option User :=
  s.users.rows.find? fun u => u.email == email && u.passwordDigest == passwordDigest

def setAccountType (id : UserId) (accountType : AccountType) (s : Memory) : Bool × Memory :=
  match s.users.find? id with
  | none => (false, s)
  | some user => (true, { s with users := s.users.put { user with accountType := accountType } })

def createRestaurant (input : NewRestaurant) (s : Memory) : Restaurant × Memory :=
  let restaurant : Restaurant := ⟨⟨s.nextId⟩, input.name, input.address⟩
  (restaurant, { s with created := s.created + 1, restaurants := s.restaurants.put restaurant })

def createCoupon (input : NewCoupon) (s : Memory) : Coupon × Memory :=
  let coupon : Coupon :=
    ⟨⟨s.nextId⟩, input.restaurantId, input.name, input.description, input.points, input.level,
      input.validity, false⟩
  (coupon, { s with created := s.created + 1, coupons := s.coupons.put coupon })

def findCouponWithRestaurant (id : CouponId) (s : Memory) : Option (Coupon × Option Restaurant) :=
  (s.coupons.find? id).map fun c => (c, s.restaurants.find? c.restaurantId)

def listCoupons (restaurantId : RestaurantId) (s : Memory) : List Coupon :=
  s.coupons.rows.filter fun c => c.restaurantId = restaurantId

def markDeleted (id : CouponId) (s : Memory) : Bool × Memory :=
  match s.coupons.find? id with
  | none => (false, s)
  | some coupon => (true, { s with coupons := s.coupons.put { coupon with deleted := true } })

/-- The stored balance of a pair, or the empty one. -/
def balanceOf (userId : UserId) (restaurantId : RestaurantId) (s : Memory) : Balance :=
  (s.balances.find? (userId, restaurantId)).getD (.empty userId restaurantId)

def listBalances (userId : UserId) (s : Memory) : List Balance :=
  s.balances.rows.filter fun b => b.userId = userId

def credited? (b : Balance) (points experience : Amount) : Option Balance := do
  let points ← b.points.add? points
  let experience ← b.experience.add? experience
  some { b with points := points, experience := experience }

def credit (userId : UserId) (restaurantId : RestaurantId) (points experience : Amount)
    (s : Memory) : Except StoreError Balance × Memory :=
  match credited? (s.balanceOf userId restaurantId) points experience with
  | none => (.error .balanceOutOfRange, s)
  | some balance => (.ok balance, { s with balances := s.balances.put balance })

def debit (userId : UserId) (restaurantId : RestaurantId) (points : Amount) (s : Memory) :
    Except StoreError (Option Balance) × Memory :=
  match s.balances.find? (userId, restaurantId) with
  | none => (.ok none, s)
  | some balance =>
    if balance.points < points then (.ok none, s)
    else
      match balance.points.sub? points with
      | none => (.error .balanceOutOfRange, s)
      | some rest =>
        let balance := { balance with points := rest }
        (.ok (some balance), { s with balances := s.balances.put balance })

def createAchievement (input : NewAchievement) (s : Memory) : Achievement × Memory :=
  let achievement : Achievement :=
    ⟨⟨s.nextId⟩, input.restaurantId, input.name, input.experience, input.points, input.requirement⟩
  (achievement,
    { s with created := s.created + 1, achievements := s.achievements.put achievement })

def listAchievements (restaurantId : RestaurantId) (s : Memory) : List Achievement :=
  s.achievements.rows.filter fun a => a.restaurantId = restaurantId

/-- Deletes an achievement together with its progress rows. -/
def deleteAchievement (id : AchievementId) (s : Memory) : Bool × Memory :=
  match s.achievements.find? id with
  | none => (false, s)
  | some _ =>
    (true, { s with
      achievements := s.achievements.erase id,
      progress := s.progress.filter fun p => p.achievementId ≠ id })

def listProgress (userId : UserId) (s : Memory) : List Progress :=
  s.progress.rows.filter fun p => p.userId = userId

def createProgress (achievementId : AchievementId) (userId : UserId) (total : Amount)
    (s : Memory) : Except StoreError Progress × Memory :=
  match s.progress.find? (userId, achievementId) with
  | some _ => (.error (.progressExists userId achievementId), s)
  | none =>
    let row : Progress := ⟨userId, achievementId, 0, total⟩
    (.ok row, { s with progress := s.progress.put row })

def increment (achievementId : AchievementId) (userId : UserId) (s : Memory) :
    Option Progress × Memory :=
  match s.progress.find? (userId, achievementId) with
  | none => (none, s)
  | some row =>
    if row.progress < row.total then
      let row := { row with progress := row.progress + 1 }
      (some row, { s with progress := s.progress.put row })
    else (none, s)

/-- Exchanges a stored row that is exactly full for its reward. -/
def complete (row : Progress) (reward : Reward) (s : Memory) : Except StoreError Bool × Memory :=
  match s.progress.find? (row.userId, row.achievementId) with
  | none => (.ok false, s)
  | some stored =>
    if stored.progress = stored.total then
      match s.credit row.userId reward.restaurantId reward.points reward.experience with
      | (.error e, s) => (.error e, s)
      | (.ok _, s) =>
        (.ok true, { s with progress := s.progress.erase (row.userId, row.achievementId) })
    else (.ok false, s)

def handle : Handler Memory
  | .createUser input, s => s.createUser input
  | .findUser id, s => (.ok (s.users.find? id), s)
  | .findUserByEmail email, s => (.ok (s.findUserByEmail email), s)
  | .findUserByCredentials email digest, s => (.ok (s.findUserByCredentials email digest), s)
  | .setAccountType id accountType, s => answered (s.setAccountType id accountType)
  | .createRestaurant input, s => answered (s.createRestaurant input)
  | .findRestaurant id, s => (.ok (s.restaurants.find? id), s)
  | .createCoupon input, s => answered (s.createCoupon input)
  | .findCoupon id, s => (.ok (s.coupons.find? id), s)
  | .findCouponWithRestaurant id, s => (.ok (s.findCouponWithRestaurant id), s)
  | .listCoupons restaurantId, s => (.ok (s.listCoupons restaurantId), s)
  | .markDeleted id, s => answered (s.markDeleted id)
  | .findBalance userId restaurantId, s => (.ok (s.balances.find? (userId, restaurantId)), s)
  | .listBalances userId, s => (.ok (s.listBalances userId), s)
  | .credit userId restaurantId points experience, s =>
    s.credit userId restaurantId points experience
  | .debit userId restaurantId points, s => s.debit userId restaurantId points
  | .createAchievement input, s => answered (s.createAchievement input)
  | .findAchievement id, s => (.ok (s.achievements.find? id), s)
  | .listAchievements restaurantId, s => (.ok (s.listAchievements restaurantId), s)
  | .deleteAchievement id, s => answered (s.deleteAchievement id)
  | .listProgress userId, s => (.ok (s.listProgress userId), s)
  | .findProgress achievementId userId, s => (.ok (s.progress.find? (userId, achievementId)), s)
  | .createProgress achievementId userId total, s => s.createProgress achievementId userId total
  | .increment achievementId userId, s => answered (s.increment achievementId userId)
  | .complete row reward, s => s.complete row reward

end Memory

end Loyalty
