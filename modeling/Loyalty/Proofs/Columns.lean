import Loyalty.Proofs.RequirementJson
import Loyalty.Store.Relational

/-!
# Values as columns

How a domain value is written into the columns of its row. The row keeps the key of the value and is
read as the value again, whatever texts, amounts, windows and requirements it holds.
-/

namespace Loyalty

/-- Columns keep the key of a value and are read as the value again. -/
structure Encodes {ρ σ κ : Type} [Keyed ρ κ] [Keyed σ κ] (columns : ρ → σ)
    (read : σ → Except StoreError ρ) : Prop where
  key_eq : ∀ v, Keyed.key (columns v) = Keyed.key v
  read_eq : ∀ v, read (columns v) = .ok v

namespace User

def columns (u : User) : UserRow := ⟨u.id, u.name, u.email, u.passwordDigest, u.accountType.code⟩

theorem key_columns (u : User) : Keyed.key u.columns = Keyed.key u := rfl

@[simp] theorem read_columns (u : User) : u.columns.read = .ok u := by
  rw [UserRow.read, columns, AccountType.ofCode?_code]

theorem encodes : Encodes columns UserRow.read := ⟨key_columns, read_columns⟩

end User

namespace Restaurant

def columns (r : Restaurant) : Restaurant := r

theorem encodes : Encodes columns .ok := ⟨fun _ => rfl, fun _ => rfl⟩

end Restaurant

namespace Coupon

def columns (c : Coupon) : CouponRow :=
  ⟨c.id, c.restaurantId, c.name, c.description, c.points, c.level, c.validity.opens?,
    c.validity.closes?, c.deleted⟩

theorem key_columns (c : Coupon) : Keyed.key c.columns = Keyed.key c := rfl

@[simp] theorem read_columns (c : Coupon) : c.columns.read = .ok c := by
  rw [CouponRow.read, columns, Validity.ofEnds?_opens?_closes?]

theorem encodes : Encodes columns CouponRow.read := ⟨key_columns, read_columns⟩

end Coupon

namespace Achievement

def columns (a : Achievement) : AchievementRow :=
  ⟨a.id, a.restaurantId, a.name, a.experience, a.points, a.requirement.toJson⟩

theorem key_columns (a : Achievement) : Keyed.key a.columns = Keyed.key a := rfl

@[simp] theorem read_columns (a : Achievement) : a.columns.read = .ok a := by
  rw [AchievementRow.read, columns, Requirement.ofJson_toJson]

theorem encodes : Encodes columns AchievementRow.read := ⟨key_columns, read_columns⟩

end Achievement

namespace Balance

def columns (b : Balance) : BalanceRow :=
  ⟨b.userId, b.restaurantId, b.points.toInt, b.experience.toInt⟩

theorem key_columns (b : Balance) : Keyed.key b.columns = Keyed.key b := rfl

@[simp] theorem read_columns (b : Balance) : b.columns.read = .ok b := by
  rw [BalanceRow.read, columns, BalanceRow.readColumn, BalanceRow.readColumn,
    Amount.ofInt?_toInt, Amount.ofInt?_toInt]
  rfl

end Balance

section Reads

variable {α ρ : Type} {columns : α → ρ} {read : ρ → Except StoreError α}

theorem readRow_columns (hread : ∀ a, read (columns a) = .ok a) (x : Option α) :
    readRow read (x.map columns) = .ok x := by
  cases x with
  | none => rfl
  | some a =>
    rw [Option.map_some, readRow, hread]
    rfl

theorem readRows_columns (hread : ∀ a, read (columns a) = .ok a) (as : List α) :
    readRows read (as.map columns) = .ok as := by
  induction as with
  | nil => rfl
  | cons a as ih =>
    rw [List.map_cons, readRows, hread, ih]
    rfl

end Reads

end Loyalty
