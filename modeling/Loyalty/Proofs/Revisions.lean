import Loyalty.Proofs.Chronicle
import Loyalty.Proofs.Integrity

/-!
# Revisions

The users, the restaurants, the coupons and the achievements of the store in memory are chronicled
by the calls that are made of it. A call enters a record with the number that it gives out, and at
most one record; it alters or removes the one that it names.
-/

namespace Loyalty

namespace Call

def userEntry (c : Call) : Entry User UserId :=
  match c.op, c.answer with
  | .register _, .ok (.user user) => .enters user
  | .setAccountType id accountType, .ok _ =>
    .alters id fun user => { user with accountType := accountType }
  | _, _ => .keeps

def restaurantEntry (c : Call) : Entry Restaurant RestaurantId :=
  match c.op, c.answer with
  | .createRestaurant _, .ok (.restaurant restaurant) => .enters restaurant
  | _, _ => .keeps

def couponEntry (c : Call) : Entry Coupon CouponId :=
  match c.op, c.answer with
  | .createCoupon _, .ok (.coupon coupon) => .enters coupon
  | .softDeleteCoupon id, .ok _ => .alters id fun coupon => { coupon with deleted := true }
  | _, _ => .keeps

def achievementEntry (c : Call) : Entry Achievement AchievementId :=
  match c.op, c.answer with
  | .createAchievement _, .ok (.achievement achievement) => .enters achievement
  | .createCompactAchievement _, .ok (.achievement achievement) => .enters achievement
  | .deleteAchievement id, .ok _ => .removes id
  | _, _ => .keeps

section Entered

variable {c : Call}

theorem userEntry_eq_some_iff {user : User} : c.userEntry.entered? = some user ↔
    ∃ input, c.op = .register input ∧ c.answer = .ok (.user user) := by
  obtain ⟨op, before, answer, after⟩ := c
  constructor
  · intro h
    unfold userEntry at h
    split at h <;> cases h
    exact ⟨_, ‹_›, ‹_›⟩
  · rintro ⟨input, rfl, rfl⟩
    rfl

theorem restaurantEntry_eq_some_iff {restaurant : Restaurant} :
    c.restaurantEntry.entered? = some restaurant ↔
      ∃ input, c.op = .createRestaurant input ∧ c.answer = .ok (.restaurant restaurant) := by
  obtain ⟨op, before, answer, after⟩ := c
  constructor
  · intro h
    unfold restaurantEntry at h
    split at h <;> cases h
    exact ⟨_, ‹_›, ‹_›⟩
  · rintro ⟨input, rfl, rfl⟩
    rfl

theorem couponEntry_eq_some_iff {coupon : Coupon} : c.couponEntry.entered? = some coupon ↔
    ∃ form, c.op = .createCoupon form ∧ c.answer = .ok (.coupon coupon) := by
  obtain ⟨op, before, answer, after⟩ := c
  constructor
  · intro h
    unfold couponEntry at h
    split at h <;> cases h
    exact ⟨_, ‹_›, ‹_›⟩
  · rintro ⟨form, rfl, rfl⟩
    rfl

theorem achievementEntry_eq_some_iff {achievement : Achievement} :
    c.achievementEntry.entered? = some achievement ↔
      ((∃ input, c.op = .createAchievement input) ∨
        ∃ form, c.op = .createCompactAchievement form) ∧
          c.answer = .ok (.achievement achievement) := by
  obtain ⟨op, before, answer, after⟩ := c
  constructor
  · intro h
    unfold achievementEntry at h
    split at h <;> cases h
    · exact ⟨Or.inl ⟨_, ‹_›⟩, ‹_›⟩
    · exact ⟨Or.inr ⟨_, ‹_›⟩, ‹_›⟩
  · rintro ⟨⟨input, rfl⟩ | ⟨form, rfl⟩, rfl⟩ <;> rfl

/-- A record is entered with the number that is given out. -/
theorem allotted?_of_user {user : User} (h : c.userEntry.entered? = some user) :
    c.allotted? = some user.id.value := by
  obtain ⟨input, hop, hanswer⟩ := userEntry_eq_some_iff.1 h
  simp only [allotted?, hop, hanswer]

theorem allotted?_of_restaurant {restaurant : Restaurant}
    (h : c.restaurantEntry.entered? = some restaurant) :
    c.allotted? = some restaurant.id.value := by
  obtain ⟨input, hop, hanswer⟩ := restaurantEntry_eq_some_iff.1 h
  simp only [allotted?, hop, hanswer]

theorem allotted?_of_coupon {coupon : Coupon} (h : c.couponEntry.entered? = some coupon) :
    c.allotted? = some coupon.id.value := by
  obtain ⟨form, hop, hanswer⟩ := couponEntry_eq_some_iff.1 h
  simp only [allotted?, hop, hanswer]

theorem allotted?_of_achievement {achievement : Achievement}
    (h : c.achievementEntry.entered? = some achievement) :
    c.allotted? = some achievement.id.value := by
  obtain ⟨⟨input, hop⟩ | ⟨form, hop⟩, hanswer⟩ := achievementEntry_eq_some_iff.1 h <;>
    simp only [allotted?, hop, hanswer]

end Entered

end Call

namespace Memory

/-- The tables of which the rows have identifiers of their own. -/
def records (s : Memory) : Table User × Table Restaurant × Table Coupon × Table Achievement :=
  (s.users, s.restaurants, s.coupons, s.achievements)

theorem records_of_handle {r : Request} (s : Memory) (h : r.revises = false) :
    (handle r s).2.records = s.records := by
  have hchange := change_handle s r
  generalize (handle r s).1 = answer at hchange
  generalize (handle r s).2 = s' at hchange
  cases hchange with
  | createUser | setAccountType | createRestaurant | createCoupon | markDeleted
  | createAchievement | deleteAchievement => cases h
  | _ => rfl

theorem records_of_call {op : Operation} (s : Memory) (h : op.revises = false) :
    (op.call s).after.records = s.records := by
  apply op.onlyAsks_script.run (P := fun s' => s'.records = s.records) rfl
  intro s₁ r hs₁ hreaches
  refine (records_of_handle s₁ ?_).trans hs₁
  cases hrevises : r.revises with
  | false => rfl
  | true => exact (hreaches.records hrevises).symm.trans h

end Memory

def Call.revise (c : Call) (s : Memory) :
    Table User × Table Restaurant × Table Coupon × Table Achievement :=
  (c.userEntry.revise s.users, c.restaurantEntry.revise s.restaurants,
    c.couponEntry.revise s.coupons, c.achievementEntry.revise s.achievements)

namespace Memory

theorem records_call (op : Operation) (s : Memory) :
    (op.call s).after.records = (op.call s).revise s := by
  by_cases hop : op.revises = true
  · have hwrites := Call.writes_call hop s
    change (op.call s).after.records = (op.call s).revise (op.call s).before
    generalize op.call s = c at hwrites
    cases hwrites with
    | @refused op => cases op <;> rfl
    | @retypes s id accountType user hfound =>
      have hrevised :=
        Entry.revise_alters (fun user : User => { user with accountType := accountType }) hfound
      exact congrArg (fun table => (table, s.restaurants, s.coupons, s.achievements)) hrevised.symm
    | @marks s id coupon hfound =>
      have hrevised :=
        Entry.revise_alters (fun coupon : Coupon => { coupon with deleted := true }) hfound
      exact congrArg (fun table => (s.users, s.restaurants, table, s.achievements)) hrevised.symm
    | offers hoffer => rcases hoffer with rfl | ⟨form, rfl, -⟩ <;> rfl
    | _ => rfl
  · cases op with
    | register | setAccountType | createRestaurant | createCoupon | softDeleteCoupon
    | createAchievement | createCompactAchievement | deleteAchievement => exact absurd rfl hop
    | _ => exact records_of_call s rfl

/-- What a call gives out is the next number. -/
theorem numbered_of_allotted {op : Operation} {s : Memory} {id : Amount}
    (h : (op.call s).allotted? = some id) : (op.call s).after.created = s.created + 1 ∧
      (s.created < 2147483647 → id.toInt = s.created + 1) := by
  rcases allots_call op s with ⟨hnext, hcreated⟩ | ⟨hnone, -⟩
  · rw [h] at hnext
    cases hnext
    exact ⟨hcreated, toInt_nextId⟩
  · rw [h] at hnone
    cases hnone

end Memory

open Memory

namespace Call

theorem chronicle_users : Chronicle Memory.users userEntry where
  initial := rfl
  revised op s := congrArg (fun tables => tables.1) (records_call op s)
  keys c := by
    obtain ⟨op, before, answer, after⟩ := c
    intro key change h row
    unfold userEntry at h
    split at h <;> cases h
    rfl
  numbered _ _ _ h := numbered_of_allotted (allotted?_of_user h)

theorem chronicle_restaurants : Chronicle Memory.restaurants restaurantEntry where
  initial := rfl
  revised op s := congrArg (fun tables => tables.2.1) (records_call op s)
  keys c := by
    intro key change h row
    unfold restaurantEntry at h
    split at h <;> cases h
  numbered _ _ _ h := numbered_of_allotted (allotted?_of_restaurant h)

theorem chronicle_coupons : Chronicle Memory.coupons couponEntry where
  initial := rfl
  revised op s := congrArg (fun tables => tables.2.2.1) (records_call op s)
  keys c := by
    intro key change h row
    unfold couponEntry at h
    split at h <;> cases h
    rfl
  numbered _ _ _ h := numbered_of_allotted (allotted?_of_coupon h)

theorem chronicle_achievements : Chronicle Memory.achievements achievementEntry where
  initial := rfl
  revised op s := congrArg (fun tables => tables.2.2.2) (records_call op s)
  keys c := by
    intro key change h row
    unfold achievementEntry at h
    split at h <;> cases h
  numbered _ _ _ h := numbered_of_allotted (allotted?_of_achievement h)

end Call

end Loyalty
