import Loyalty.Coupon
import Loyalty.Report

/-!
# Coupon forms

What a new coupon is asked for with. A form names its two days, or is indefinite and then its days
do not count. A form in order gives a new coupon; all other forms give the checks that failed.
-/

namespace Loyalty

structure CouponForm where
  restaurantId : RestaurantId
  name : String
  description : String
  points : Amount
  level : Amount
  opens : Option Date
  closes : Option Date
  isIndefinite : Bool
  deriving DecidableEq, Repr

inductive CouponComplaint where
  | negativePoints
  | nameMissing
  | negativeLevel
  | datesInverted
  | dateMissing
  deriving DecidableEq, Repr

namespace CouponComplaint

def message : CouponComplaint → String
  | .negativePoints => "Invalid amount for points."
  | .nameMissing => "Invalid coupon name, please give your coupon a name."
  | .negativeLevel => "Invalid level requirement, please give a non-negative value."
  | .datesInverted => "Invalid date interval, begin date must be before expiration date."
  | .dateMissing => "Missing start or expiration date."

end CouponComplaint

namespace CouponForm

def validity (form : CouponForm) : Except CouponComplaint Validity :=
  if form.isIndefinite then .ok .indefinite
  else
    match form.opens, form.closes with
    | some opens, some closes =>
      match DateWindow.ofDates? opens closes with
      | some w => .ok (.window w)
      | none => .error .datesInverted
    | _, _ => .error .dateMissing

/-- The checks of everything but the days. -/
def fieldReport (form : CouponForm) : Report CouponComplaint :=
  Report.empty
    |>.check (decide (form.points < 0)) .negativePoints
    |>.check (form.name == "") .nameMissing
    |>.check (decide (form.level < 0)) .negativeLevel

def validate (form : CouponForm) : Except (Report CouponComplaint) NewCoupon :=
  match form.validity with
  | .error complaint => .error (form.fieldReport.push complaint)
  | .ok validity =>
    form.fieldReport.verdict.map fun () =>
      ⟨form.restaurantId, form.name, form.description, form.points, form.level, validity⟩

end CouponForm

end Loyalty
