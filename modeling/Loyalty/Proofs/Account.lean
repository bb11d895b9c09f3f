import Loyalty.Proofs.Entries

/-!
# The account of the exchanges

What a store has to show of users, restaurants, coupons and achievements, as its exchanges tell it:
what was created, with the account types, the deletion marks and the deletions that were answered
since. The account speaks of no table and of no column.
-/

namespace Loyalty

def NewUser.withId (input : NewUser) (id : UserId) : User :=
  ⟨id, input.name, input.email, input.passwordDigest, input.accountType⟩

def NewRestaurant.withId (input : NewRestaurant) (id : RestaurantId) : Restaurant :=
  ⟨id, input.name, input.address⟩

def NewCoupon.withId (input : NewCoupon) (id : CouponId) : Coupon :=
  ⟨id, input.restaurantId, input.name, input.description, input.points, input.level,
    input.validity, false⟩

def NewAchievement.withId (input : NewAchievement) (id : AchievementId) : Achievement :=
  ⟨id, input.restaurantId, input.name, input.experience, input.points, input.requirement⟩

namespace Exchange

def userEntry : Exchange → Entry User UserId
  | ⟨.createUser _, .ok user⟩ => .enters user
  | ⟨.setAccountType id accountType, .ok true⟩ =>
    .alters id fun user => { user with accountType := accountType }
  | _ => .keeps

def restaurantEntry : Exchange → Entry Restaurant RestaurantId
  | ⟨.createRestaurant _, .ok restaurant⟩ => .enters restaurant
  | _ => .keeps

def couponEntry : Exchange → Entry Coupon CouponId
  | ⟨.createCoupon _, .ok coupon⟩ => .enters coupon
  | ⟨.markDeleted id, .ok true⟩ => .alters id fun coupon => { coupon with deleted := true }
  | _ => .keeps

def achievementEntry : Exchange → Entry Achievement AchievementId
  | ⟨.createAchievement _, .ok achievement⟩ => .enters achievement
  | ⟨.deleteAchievement id, .ok true⟩ => .removes id
  | _ => .keeps

end Exchange

/-- What is entered after some exchanges. -/
structure Account where
  user : UserId → Option User
  restaurant : RestaurantId → Option Restaurant
  coupon : CouponId → Option Coupon
  achievement : AchievementId → Option Achievement

def account (past : List Exchange) : Account where
  user := recorded Exchange.userEntry past
  restaurant := recorded Exchange.restaurantEntry past
  coupon := recorded Exchange.couponEntry past
  achievement := recorded Exchange.achievementEntry past

namespace Account

/-- A request is answered with what is entered. Creations are answered with the input under an
identifier; `room` says that there are unused ones. -/
def Shows (a : Account) (room : Prop) : Exchange → Prop
  | ⟨.createUser input, answer⟩ =>
    ((∃ u, a.user u.id = some u ∧ u.email = input.email) ∧ answer = .error .duplicateEmail) ∨
      (∀ u, a.user u.id = some u → u.email ≠ input.email) ∧
        ∃ id, answer = .ok (input.withId id) ∧ (room → a.user id = none)
  | ⟨.findUser id, answer⟩ => answer = .ok (a.user id)
  | ⟨.findUserByEmail email, answer⟩ =>
    ∃ found, answer = .ok found ∧ ∀ u, found = some u ↔ a.user u.id = some u ∧ u.email = email
  | ⟨.findUserByCredentials email passwordDigest, answer⟩ =>
    ∃ found, answer = .ok found ∧ ∀ u, found = some u ↔
      a.user u.id = some u ∧ u.email = email ∧ u.passwordDigest = passwordDigest
  | ⟨.setAccountType id _, answer⟩ => answer = .ok (a.user id).isSome
  | ⟨.createRestaurant input, answer⟩ =>
    ∃ id, answer = .ok (input.withId id) ∧ (room → a.restaurant id = none)
  | ⟨.findRestaurant id, answer⟩ => answer = .ok (a.restaurant id)
  | ⟨.createCoupon input, answer⟩ =>
    a.restaurant input.restaurantId = none ∧ answer = .error .missingReference ∨
      (a.restaurant input.restaurantId).isSome ∧
        ∃ id, answer = .ok (input.withId id) ∧ (room → a.coupon id = none)
  | ⟨.findCoupon id, answer⟩ => answer = .ok (a.coupon id)
  | ⟨.findCouponWithRestaurant id, answer⟩ =>
    answer = .ok ((a.coupon id).map fun c => (c, a.restaurant c.restaurantId))
  | ⟨.listCoupons restaurantId, answer⟩ =>
    ∃ coupons, answer = .ok coupons ∧ InOrder coupons ∧
      ∀ c, c ∈ coupons ↔ a.coupon c.id = some c ∧ c.restaurantId = restaurantId
  | ⟨.markDeleted id, answer⟩ => answer = .ok (a.coupon id).isSome
  | ⟨.createAchievement input, answer⟩ =>
    a.restaurant input.restaurantId = none ∧ answer = .error .missingReference ∨
      (a.restaurant input.restaurantId).isSome ∧
        ∃ id, answer = .ok (input.withId id) ∧ (room → a.achievement id = none)
  | ⟨.findAchievement id, answer⟩ => answer = .ok (a.achievement id)
  | ⟨.listAchievements restaurantId, answer⟩ =>
    ∃ achievements, answer = .ok achievements ∧ InOrder achievements ∧
      ∀ b, b ∈ achievements ↔ a.achievement b.id = some b ∧ b.restaurantId = restaurantId
  | ⟨.deleteAchievement id, answer⟩ => answer = .ok (a.achievement id).isSome
  | _ => True

end Account

def DistinctEmails (known : UserId → Option User) : Prop :=
  ∀ u v, known u.id = some u → known v.id = some v → u.email = v.email → u = v

theorem DistinctEmails.enter {known : UserId → Option User} (h : DistinctEmails known) {new : User}
    (hnew : ∀ u, known u.id = some u → u.email ≠ new.email) :
    DistinctEmails ((Entry.enters new).apply known) := by
  have hcases : ∀ u, (Entry.enters new).apply known u.id = some u →
      u = new ∨ known u.id = some u := by
    intro u hu
    rw [Entry.apply] at hu
    split at hu
    · exact Or.inl (Option.some.inj hu).symm
    · exact Or.inr hu
  intro u v hu hv hemail
  rcases hcases u hu with hu' | hu'
  · rcases hcases v hv with hv' | hv'
    · rw [hu', hv']
    · rw [hu'] at hemail
      exact absurd hemail.symm (hnew v hv')
  · rcases hcases v hv with hv' | hv'
    · rw [hv'] at hemail
      exact absurd hemail (hnew u hu')
    · exact h u v hu' hv' hemail

/-- Another account type leaves addresses as they are. -/
theorem DistinctEmails.alter {known : UserId → Option User} (h : DistinctEmails known)
    (key : UserId) (accountType : AccountType) :
    DistinctEmails ((Entry.alters key fun user : User =>
      { user with accountType := accountType }).apply known) := by
  have hcases : ∀ u, (Entry.alters key fun user : User =>
      { user with accountType := accountType }).apply known u.id = some u →
      ∃ old, known old.id = some old ∧ old.email = u.email ∧ old.id = u.id := by
    intro u hu
    rw [Entry.apply] at hu
    split at hu
    · obtain ⟨old, hold, rfl⟩ := Option.map_eq_some_iff.1 hu
      exact ⟨old, hold, rfl, rfl⟩
    · exact ⟨u, hu, rfl, rfl⟩
  intro u v hu hv hemail
  obtain ⟨a, ha, haemail, haid⟩ := hcases u hu
  obtain ⟨b, hb, hbemail, hbid⟩ := hcases v hv
  have hab : a = b := h a b ha hb (by rw [haemail, hbemail, hemail])
  have hid : u.id = v.id := by rw [← haid, ← hbid, hab]
  rw [hid, hv] at hu
  exact (Option.some.inj hu).symm

end Loyalty
