import Loyalty.Achievement
import Loyalty.Balance
import Loyalty.Coupon
import Loyalty.Restaurant
import Loyalty.Store.Table
import Loyalty.User

/-!
# Keys

Users, restaurants, coupons and achievements are kept under their identifiers; progress rows and
balances under a pair of identifiers, that of the user first.
-/

namespace Loyalty

namespace Amount

def pairRank (a b : Amount) : Int := a.toInt * 4294967296 + b.toInt

theorem pairRank_inj {a b c d : Amount} : pairRank a b = pairRank c d ↔ a = c ∧ b = d := by
  have ha := bounds a
  have hb := bounds b
  have hc := bounds c
  have hd := bounds d
  rw [← Int32.toInt_inj, ← Int32.toInt_inj]
  unfold pairRank
  omega

end Amount

instance : Ranked UserId where
  rank id := id.value.toInt
  rank_injective {a b} h := by
    cases a
    cases b
    simpa [Int32.toInt_inj] using h

instance : Ranked RestaurantId where
  rank id := id.value.toInt
  rank_injective {a b} h := by
    cases a
    cases b
    simpa [Int32.toInt_inj] using h

instance : Ranked CouponId where
  rank id := id.value.toInt
  rank_injective {a b} h := by
    cases a
    cases b
    simpa [Int32.toInt_inj] using h

instance : Ranked AchievementId where
  rank id := id.value.toInt
  rank_injective {a b} h := by
    cases a
    cases b
    simpa [Int32.toInt_inj] using h

instance : Ranked (UserId × RestaurantId) where
  rank pair := Amount.pairRank pair.1.value pair.2.value
  rank_injective {a b} h := by
    obtain ⟨⟨_⟩, ⟨_⟩⟩ := a
    obtain ⟨⟨_⟩, ⟨_⟩⟩ := b
    simpa [Amount.pairRank_inj] using h

instance : Ranked (UserId × AchievementId) where
  rank pair := Amount.pairRank pair.1.value pair.2.value
  rank_injective {a b} h := by
    obtain ⟨⟨_⟩, ⟨_⟩⟩ := a
    obtain ⟨⟨_⟩, ⟨_⟩⟩ := b
    simpa [Amount.pairRank_inj] using h

instance : Keyed User UserId := ⟨User.id⟩

instance : Keyed Restaurant RestaurantId := ⟨Restaurant.id⟩

instance : Keyed Coupon CouponId := ⟨Coupon.id⟩

instance : Keyed Achievement AchievementId := ⟨Achievement.id⟩

instance : Keyed Progress (UserId × AchievementId) := ⟨fun p => (p.userId, p.achievementId)⟩

instance : Keyed Balance (UserId × RestaurantId) := ⟨fun b => (b.userId, b.restaurantId)⟩

end Loyalty
