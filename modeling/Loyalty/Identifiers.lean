import Loyalty.Text.Decimal

/-!
# Identifiers

Users, restaurants, coupons and achievements are known by numbers, each kind by a type of its own.
An identifier is read from text like an amount, with blanks around it.
-/

namespace Loyalty

structure UserId where
  value : Amount
  deriving DecidableEq, Repr

structure RestaurantId where
  value : Amount
  deriving DecidableEq, Repr

structure CouponId where
  value : Amount
  deriving DecidableEq, Repr

structure AchievementId where
  value : Amount
  deriving DecidableEq, Repr

namespace Text

def readIdentifier (s : String) : Except NumberFault Amount := readAmount (trim s.toList)

end Text

instance : ToString UserId := ⟨fun id => Text.ofAmount id.value⟩

instance : ToString RestaurantId := ⟨fun id => Text.ofAmount id.value⟩

instance : ToString CouponId := ⟨fun id => Text.ofAmount id.value⟩

instance : ToString AchievementId := ⟨fun id => Text.ofAmount id.value⟩

end Loyalty
