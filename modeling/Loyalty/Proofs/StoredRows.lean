import Loyalty.Proofs.Renaming
import Loyalty.Proofs.RequirementJson
import Loyalty.Store.Relational

/-!
# Values in columns

What is kept as a value by one store and as a row of columns by the other: the row is read as a
value that is alike, so what is found in both is answered alike.
-/

namespace Loyalty

theorem BalanceRow.readColumn_toInt (column : BalanceColumn) (a : Amount) :
    readColumn column a.toInt = .ok a := by
  rw [readColumn, Amount.ofInt?_toInt]

namespace Likeness

section Stored

variable (l : Likeness)

def StoredUser (u : User) (row : UserRow) : Prop :=
  l.users u.id row.id ∧ row = ⟨row.id, u.name, u.email, u.passwordDigest, u.accountType.code⟩

def StoredCoupon (c : Coupon) (row : CouponRow) : Prop :=
  l.coupons c.id row.id ∧ l.restaurants c.restaurantId row.restaurantId ∧
    row = ⟨row.id, row.restaurantId, c.name, c.description, c.points, c.level, c.validity.opens?,
      c.validity.closes?, c.deleted⟩

def StoredAchievement (a : Achievement) (row : AchievementRow) : Prop :=
  l.achievements a.id row.id ∧ l.restaurants a.restaurantId row.restaurantId ∧
    row = ⟨row.id, row.restaurantId, a.name, a.experience, a.points, a.requirement.toJson⟩

def StoredBalance (b : Balance) (row : BalanceRow) : Prop :=
  l.users b.userId row.userId ∧ l.restaurants b.restaurantId row.restaurantId ∧
    row = ⟨row.userId, row.restaurantId, b.points.toInt, b.experience.toInt⟩

end Stored

variable {l m : Likeness}

theorem storedUser_mono (h : l.Le m) {u : User} {row : UserRow} (hrow : l.StoredUser u row) :
    m.StoredUser u row := ⟨h.users hrow.1, hrow.2⟩

theorem storedCoupon_mono (h : l.Le m) {c : Coupon} {row : CouponRow}
    (hrow : l.StoredCoupon c row) : m.StoredCoupon c row :=
  ⟨h.coupons hrow.1, h.restaurants hrow.2.1, hrow.2.2⟩

theorem storedAchievement_mono (h : l.Le m) {a : Achievement} {row : AchievementRow}
    (hrow : l.StoredAchievement a row) : m.StoredAchievement a row :=
  ⟨h.achievements hrow.1, h.restaurants hrow.2.1, hrow.2.2⟩

theorem storedBalance_mono (h : l.Le m) {b : Balance} {row : BalanceRow}
    (hrow : l.StoredBalance b row) : m.StoredBalance b row :=
  ⟨h.users hrow.1, h.restaurants hrow.2.1, hrow.2.2⟩

theorem StoredUser.read {u : User} {row : UserRow} (h : l.StoredUser u row) :
    ∃ v, row.read = .ok v ∧ l.SameUser u v := by
  obtain ⟨hid, hrow⟩ := h
  refine ⟨{ u with id := row.id }, ?_, hid, rfl⟩
  rw [hrow, UserRow.read, AccountType.ofCode?_code]

theorem StoredCoupon.read {c : Coupon} {row : CouponRow} (h : l.StoredCoupon c row) :
    ∃ d, row.read = .ok d ∧ l.SameCoupon c d := by
  obtain ⟨hid, hrestaurant, hrow⟩ := h
  refine ⟨{ c with id := row.id, restaurantId := row.restaurantId }, ?_, hid, hrestaurant, rfl⟩
  rw [hrow, CouponRow.read, Validity.ofEnds?_opens?_closes?]

theorem StoredAchievement.read {a : Achievement} {row : AchievementRow}
    (h : l.StoredAchievement a row) :
    ∃ b, row.read = .ok b ∧ l.SameAchievement a b := by
  obtain ⟨hid, hrestaurant, hrow⟩ := h
  refine ⟨{ a with id := row.id, restaurantId := row.restaurantId }, ?_, hid, hrestaurant, rfl⟩
  rw [hrow, AchievementRow.read, Requirement.ofJson_toJson]

theorem StoredBalance.read {b : Balance} {row : BalanceRow} (h : l.StoredBalance b row) :
    ∃ c, row.read = .ok c ∧ l.SameBalance b c := by
  obtain ⟨huser, hrestaurant, hrow⟩ := h
  refine ⟨{ b with userId := row.userId, restaurantId := row.restaurantId }, ?_, huser,
    hrestaurant, rfl⟩
  rw [hrow, BalanceRow.read, BalanceRow.readColumn_toInt, BalanceRow.readColumn_toInt]
  rfl

end Likeness

section Reads

variable {α ρ β : Type} {read : ρ → Except StoreError β} {R : α → ρ → Prop} {S : α → β → Prop}

theorem rel_readRow (hread : ∀ a row, R a row → ∃ b, read row = .ok b ∧ S a b) {x : Option α}
    {y : Option ρ} (h : Option.Rel R x y) :
    ∃ z, readRow read y = .ok z ∧ Option.Rel S x z := by
  cases h with
  | none => exact ⟨none, rfl, .none⟩
  | @some a row hrow =>
    obtain ⟨b, hb, hab⟩ := hread a row hrow
    refine ⟨some b, ?_, .some hab⟩
    rw [readRow, hb]
    rfl

theorem rel_readRows (hread : ∀ a row, R a row → ∃ b, read row = .ok b ∧ S a b) {as : List α}
    {rows : List ρ} (h : List.Forall₂ R as rows) :
    ∃ bs, readRows read rows = .ok bs ∧ List.Forall₂ S as bs := by
  induction h with
  | nil => exact ⟨[], rfl, .nil⟩
  | @cons a row as rows hrow _ ih =>
    obtain ⟨b, hb, hab⟩ := hread a row hrow
    obtain ⟨bs, hbs, habs⟩ := ih
    refine ⟨b :: bs, ?_, .cons hab habs⟩
    rw [readRows, hb, hbs]
    rfl

end Reads

end Loyalty
