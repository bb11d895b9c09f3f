import Loyalty.Proofs.Revisions

/-!
# The records of coupons

A coupon stays as it was created, but for the mark that a deletion sets. Nothing takes the mark off
again, and nothing takes a coupon away. So all that is shown of coupons is told by the calls: each
lookup by a number shows the coupon that was created with it, and each list the coupons of its
restaurant, in the order in which they were created.
-/

namespace Loyalty

open Memory Chronicle

def Call.softDeletes (id : CouponId) (c : Call) : Bool :=
  match c.op, c.answer with
  | .softDeleteCoupon named, .ok _ => decide (named = id)
  | _, _ => false

def Coupon.after (later : List Call) (c : Coupon) : Coupon :=
  { c with deleted := c.deleted || later.any (Call.softDeletes c.id) }

namespace Call

/-- The coupons that some calls have created, in their order, each in its form after all of them. -/
def couponsOf (cs : List Call) : List Coupon :=
  standing couponEntry (fun later coupon => some (coupon.after later)) cs

def Opened (cs : List Call) (restaurant : Restaurant) : Prop :=
  ∃ c ∈ cs, ∃ input, c.op = .createRestaurant input ∧ c.answer = .ok (.restaurant restaurant)

def Issued (cs : List Call) (id : CouponId) : Prop :=
  ∃ c ∈ cs, ∃ form coupon, c.op = .createCoupon form ∧ c.answer = .ok (.coupon coupon) ∧
    coupon.id = id

/-- A call leaves a coupon as it was, or marks it as deleted. -/
theorem fate_coupon (c : Call) (coupon : Coupon) :
    c.couponEntry.fate coupon =
      some { coupon with deleted := coupon.deleted || c.softDeletes coupon.id } := by
  have hkept : some coupon = some { coupon with deleted := coupon.deleted || false } := by
    rw [Bool.or_false]
  obtain ⟨op, before, answer, after⟩ := c
  cases op with
  | createCoupon form =>
    cases answer with
    | error e => exact hkept
    | ok reply => cases reply <;> exact hkept
  | softDeleteCoupon named =>
    cases answer with
    | error e => exact hkept
    | ok reply =>
      change some (if coupon.id = named then { coupon with deleted := true } else coupon) =
        some { coupon with deleted := coupon.deleted || decide (named = coupon.id) }
      by_cases hid : named = coupon.id
      · rw [if_pos hid.symm, decide_eq_true hid, Bool.or_true]
      · rw [if_neg (Ne.symm hid), decide_eq_false hid]
        exact hkept
  | _ => exact hkept

end Call

theorem Coupon.after_cons (c : Call) (later : List Call) (coupon : Coupon) :
    coupon.after (c :: later) =
      Coupon.after later
        { coupon with deleted := coupon.deleted || c.softDeletes coupon.id } := by
  unfold Coupon.after
  rw [List.any_cons, Bool.or_assoc]

theorem lasting_coupon (later : List Call) (coupon : Coupon) :
    lasting Call.couponEntry later coupon = some (coupon.after later) := by
  induction later generalizing coupon with
  | nil =>
    rw [lasting, Coupon.after, List.any_nil, Bool.or_false]
  | cons c later ih => rw [lasting, Call.fate_coupon, Option.bind_some, ih, Coupon.after_cons]

theorem lasting_restaurant (later : List Call) (restaurant : Restaurant) :
    lasting Call.restaurantEntry later restaurant = some restaurant := by
  induction later with
  | nil => rfl
  | cons c later ih =>
    have hkept : c.restaurantEntry.fate restaurant = some restaurant := by
      unfold Call.restaurantEntry
      split <;> rfl
    rw [lasting, hkept, Option.bind_some, ih]

theorem Call.mem_couponsOf {cs : List Call} {coupon : Coupon} :
    coupon ∈ couponsOf cs ↔ ∃ before c later form created, cs = before ++ c :: later ∧
      c.op = .createCoupon form ∧ c.answer = .ok (.coupon created) ∧
        created.after later = coupon := by
  rw [couponsOf, mem_standing]
  constructor
  · rintro ⟨before, c, later, created, hsplit, hnew, hlater⟩
    obtain ⟨form, hop, hanswer⟩ := couponEntry_eq_some_iff.1 hnew
    exact ⟨before, c, later, form, created, hsplit, hop, hanswer, Option.some.inj hlater⟩
  · rintro ⟨before, c, later, form, created, hsplit, hop, hanswer, hlater⟩
    exact ⟨before, c, later, created, hsplit, couponEntry_eq_some_iff.2 ⟨form, hop, hanswer⟩,
      congrArg some hlater⟩

/-- A number was issued if there is a coupon of it. -/
theorem Call.issued_iff {cs : List Call} {id : CouponId} :
    Issued cs id ↔ ∃ coupon ∈ couponsOf cs, coupon.id = id := by
  constructor
  · rintro ⟨c, hc, form, created, hop, hanswer, hid⟩
    obtain ⟨before, later, hsplit⟩ := List.append_of_mem hc
    exact ⟨created.after later,
      mem_couponsOf.2 ⟨before, c, later, form, created, hsplit, hop, hanswer, rfl⟩, hid⟩
  · rintro ⟨coupon, hcoupon, hid⟩
    obtain ⟨before, c, later, form, created, hsplit, hop, hanswer, rfl⟩ := mem_couponsOf.1 hcoupon
    refine ⟨c, ?_, form, created, hop, hanswer, hid⟩
    rw [hsplit]
    exact List.mem_append_right before List.mem_cons_self

namespace Memory

variable {ops : List Operation} {s : Memory} {id : CouponId} {coupon : Coupon}

theorem coupons_serve (hfits : (serve ops empty).created < 2147483647) :
    (serve ops empty).coupons.rows = Call.couponsOf (calls ops empty) := by
  have hform : lasting Call.couponEntry = fun later coupon => some (coupon.after later) := by
    funext later coupon
    exact lasting_coupon later coupon
  rw [Call.chronicle_coupons.rows_of_empty ops hfits, hform, Call.couponsOf]

theorem mem_restaurants_serve (hfits : (serve ops empty).created < 2147483647)
    {restaurant : Restaurant} : restaurant ∈ (serve ops empty).restaurants.rows ↔
      Call.Opened (calls ops empty) restaurant := by
  rw [Call.chronicle_restaurants.rows_of_empty ops hfits, mem_standing]
  constructor
  · rintro ⟨before, c, later, opened, hsplit, hnew, hlater⟩
    rw [lasting_restaurant] at hlater
    cases hlater
    refine ⟨c, ?_, Call.restaurantEntry_eq_some_iff.1 hnew⟩
    rw [hsplit]
    exact List.mem_append_right before List.mem_cons_self
  · rintro ⟨c, hc, hcreated⟩
    obtain ⟨before, later, hsplit⟩ := List.append_of_mem hc
    exact ⟨before, c, later, restaurant, hsplit, Call.restaurantEntry_eq_some_iff.2 hcreated,
      lasting_restaurant later restaurant⟩

/-- A creation that succeeds returns the coupon of its form, which is not deleted. -/
theorem coupon_of_creation {form : CouponForm}
    (h : ((Operation.createCoupon form).call s).answer = .ok (.coupon coupon)) :
    ∃ input, form.validate = .ok input ∧ coupon = input.withId coupon.id := by
  have hrevises : (Operation.createCoupon form).revises = true := rfl
  have hwrites := Call.writes_call hrevises s
  have hop : ((Operation.createCoupon form).call s).op = .createCoupon form := rfl
  generalize (Operation.createCoupon form).call s = c at *
  cases hwrites with
  | issues hform hcoupon =>
    cases hop
    cases h
    refine ⟨_, hform, ?_⟩
    rw [hcoupon]
    rfl
  | _ => cases h

end Memory

namespace Coupons

variable {s : Memory} {id : CouponId} {coupon : Coupon}

theorem run_get (h : s.coupons.find? id = some coupon) :
    (get id).run handle s = (.ok coupon, s) := by
  have hanswer : handle (.findCoupon id) s = (.ok (some coupon), s) := by
    rw [← h]
    rfl
  exact Script.run_ask_bind hanswer

theorem run_get_absent (h : s.coupons.find? id = none) :
    (get id).run handle s = (.error (.notFound id), s) := by
  have hanswer : handle (.findCoupon id) s = (.ok none, s) := by
    rw [← h]
    rfl
  exact Script.run_ask_bind hanswer

theorem run_restaurantOf (h : s.coupons.find? id = some coupon) :
    (restaurantOf id).run handle s =
      (Script.ofOption (.restaurantNotFound coupon.restaurantId)
        (s.restaurants.find? coupon.restaurantId)).run handle s := by
  have hanswer : handle (.findCouponWithRestaurant id) s =
      (.ok (some (coupon, s.restaurants.find? coupon.restaurantId)), s) := by
    rw [handle, findCouponWithRestaurant, h, Option.map_some]
  exact Script.run_ask_bind hanswer

theorem run_restaurantOf_absent (h : s.coupons.find? id = none) :
    (restaurantOf id).run handle s = (.error (.notFound id), s) := by
  have hanswer : handle (.findCouponWithRestaurant id) s = (.ok none, s) := by
    rw [handle, findCouponWithRestaurant, h, Option.map_none]
  exact Script.run_ask_bind hanswer

theorem run_softDelete_absent (h : s.coupons.find? id = none) :
    (softDelete id).run handle s = (.error (.notFound id), s) := by
  have hanswer : handle (.markDeleted id) s = (.ok false, s) := by
    rw [handle, markDeleted, h, answered]
  exact Script.run_ask_bind hanswer

theorem run_softDelete (h : s.coupons.find? id = some coupon) :
    ((softDelete id).run handle s).1 = .ok () := by
  have hanswer : handle (.markDeleted id) s =
      (.ok true, { s with coupons := s.coupons.put { coupon with deleted := true } }) := by
    rw [handle, markDeleted, h, answered]
  rw [softDelete, Script.run_ask_bind hanswer]
  rfl

end Coupons

def Operation.couponLookups (today : Date) (id : CouponId) : List Operation :=
  [.getCoupon id, .getCouponDetails today id, .restaurantIdOfCoupon id, .restaurantOfCoupon id,
    .softDeleteCoupon id]

namespace Memory

/-- What is shown of a coupon by its number, where `opened` are the restaurants that there are. -/
structure ShowsCoupon (s : Memory) (opened : Restaurant → Prop) (coupon : Coupon) : Prop where
  get : ((Operation.getCoupon coupon.id).call s).answer = .ok (.coupon coupon)
  details : ∀ today, ((Operation.getCouponDetails today coupon.id).call s).answer =
    .ok (.couponDetails ⟨coupon, coupon.statusOn today⟩)
  restaurantId : ((Operation.restaurantIdOfCoupon coupon.id).call s).answer =
    .ok (.restaurantId coupon.restaurantId)
  restaurant : ∀ restaurant, opened restaurant → restaurant.id = coupon.restaurantId →
    ((Operation.restaurantOfCoupon coupon.id).call s).answer = .ok (.restaurant restaurant)
  noRestaurant : (∀ restaurant, opened restaurant → restaurant.id ≠ coupon.restaurantId) →
    ((Operation.restaurantOfCoupon coupon.id).call s).answer =
      .error (.coupon (.restaurantNotFound coupon.restaurantId))
  softDelete : ((Operation.softDeleteCoupon coupon.id).call s).answer = .ok .nothing

variable {s : Memory} {id : CouponId} {coupon : Coupon}

theorem showsCoupon_of_mem {opened : Restaurant → Prop} (h : coupon ∈ s.coupons.rows)
    (hopened : ∀ restaurant, restaurant ∈ s.restaurants.rows ↔ opened restaurant) :
    s.ShowsCoupon opened coupon := by
  have hfound : s.coupons.find? coupon.id = some coupon := Table.find?_eq_some_iff.2 ⟨h, rfl⟩
  refine ⟨?_, ?_, ?_, ?_, ?_, ?_⟩
  · rw [Operation.call, Operation.script, Script.run_relabel, Coupons.run_get hfound]
    rfl
  · intro today
    rw [Operation.call, Operation.script, Script.run_relabel, Coupons.details, Script.bind_eq,
      Script.run_bind, Coupons.run_get hfound]
    rfl
  · rw [Operation.call, Operation.script, Script.run_relabel, Coupons.restaurantIdOf,
      Script.bind_eq, Script.run_bind, Coupons.run_get hfound]
    rfl
  · intro restaurant hrestaurant hid
    have hthere : s.restaurants.find? coupon.restaurantId = some restaurant :=
      Table.find?_eq_some_iff.2 ⟨(hopened restaurant).2 hrestaurant, hid⟩
    rw [Operation.call, Operation.script, Script.run_relabel, Coupons.run_restaurantOf hfound,
      hthere]
    rfl
  · intro hnone
    have hgone : s.restaurants.find? coupon.restaurantId = none :=
      Table.find?_eq_none_iff.2 fun restaurant hrestaurant =>
        hnone restaurant ((hopened restaurant).1 hrestaurant)
    rw [Operation.call, Operation.script, Script.run_relabel, Coupons.run_restaurantOf hfound,
      hgone]
    rfl
  · rw [Operation.call, Operation.script, Script.run_relabel, Coupons.run_softDelete hfound]
    rfl

theorem notFound_of_absent (h : s.coupons.find? id = none) {today : Date} {op : Operation}
    (hop : op ∈ Operation.couponLookups today id) :
    (op.call s).answer = .error (.coupon (.notFound id)) := by
  simp only [Operation.couponLookups, List.mem_cons, List.not_mem_nil, or_false] at hop
  rcases hop with rfl | rfl | rfl | rfl | rfl
  · rw [Operation.call, Operation.script, Script.run_relabel, Coupons.run_get_absent h]
    rfl
  · rw [Operation.call, Operation.script, Script.run_relabel, Coupons.details, Script.bind_eq,
      Script.run_bind, Coupons.run_get_absent h]
    rfl
  · rw [Operation.call, Operation.script, Script.run_relabel, Coupons.restaurantIdOf,
      Script.bind_eq, Script.run_bind, Coupons.run_get_absent h]
    rfl
  · rw [Operation.call, Operation.script, Script.run_relabel, Coupons.run_restaurantOf_absent h]
    rfl
  · rw [Operation.call, Operation.script, Script.run_relabel, Coupons.run_softDelete_absent h]
    rfl

/-- A coupon that is shown is found by all lookups. -/
theorem ShowsCoupon.ne_notFound {opened : Restaurant → Prop} (h : s.ShowsCoupon opened coupon)
    {today : Date} {op : Operation} (hop : op ∈ Operation.couponLookups today coupon.id) :
    (op.call s).answer ≠ .error (.coupon (.notFound coupon.id)) := by
  simp only [Operation.couponLookups, List.mem_cons, List.not_mem_nil, or_false] at hop
  rcases hop with rfl | rfl | rfl | rfl | rfl
  · rw [h.get]
    exact nofun
  · rw [h.details]
    exact nofun
  · rw [h.restaurantId]
    exact nofun
  · by_cases hthere : ∃ restaurant, opened restaurant ∧ restaurant.id = coupon.restaurantId
    · obtain ⟨restaurant, hopened, hid⟩ := hthere
      rw [h.restaurant restaurant hopened hid]
      exact nofun
    · rw [h.noRestaurant fun restaurant hopened hid => hthere ⟨restaurant, hopened, hid⟩]
      exact nofun
  · rw [h.softDelete]
    exact nofun

/-- After any sequence of calls, a coupon that was created is the one that its form asked for, and
is shown as it was created, but for the mark that a deletion has set since. The list of a restaurant
is that of the coupons that were created for it, in their order and in their present form. The
lookups of a number find no coupon just where none was created with it. -/
theorem coupons_kept (ops : List Operation) (hfits : (serve ops empty).created < 2147483647) :
    (∀ before c later form coupon, calls ops empty = before ++ c :: later →
      c.op = .createCoupon form → c.answer = .ok (.coupon coupon) →
        (∃ input, form.validate = .ok input ∧ coupon = input.withId coupon.id) ∧
          (serve ops empty).ShowsCoupon (Call.Opened (calls ops empty)) (coupon.after later)) ∧
      (∀ restaurantId, ((Operation.listCoupons restaurantId).call (serve ops empty)).answer =
        .ok (.coupons ((Call.couponsOf (calls ops empty)).filter fun coupon =>
          coupon.restaurantId = restaurantId))) ∧
        ∀ today id, ∀ op ∈ Operation.couponLookups today id,
          (op.call (serve ops empty)).answer = .error (.coupon (.notFound id)) ↔
            ¬ Call.Issued (calls ops empty) id := by
  have hshows : ∀ coupon ∈ Call.couponsOf (calls ops empty),
      (serve ops empty).ShowsCoupon (Call.Opened (calls ops empty)) coupon := by
    intro coupon hcoupon
    rw [← coupons_serve hfits] at hcoupon
    exact showsCoupon_of_mem hcoupon fun restaurant => mem_restaurants_serve hfits
  refine ⟨?_, ?_, ?_⟩
  · intro before c later form coupon hsplit hop hanswer
    refine ⟨?_, hshows _ (Call.mem_couponsOf.2
      ⟨before, c, later, form, coupon, hsplit, hop, hanswer, rfl⟩)⟩
    obtain ⟨s, hc⟩ := exists_call_of_split hsplit
    rw [hop] at hc
    rw [hc] at hanswer
    exact coupon_of_creation hanswer
  · intro restaurantId
    rw [← coupons_serve hfits]
    rfl
  · intro today id op hop
    rw [Call.issued_iff]
    constructor
    · rintro hanswer ⟨coupon, hcoupon, rfl⟩
      exact (hshows coupon hcoupon).ne_notFound hop hanswer
    · intro hnone
      apply notFound_of_absent (Table.find?_eq_none_iff.2 ?_) hop
      rw [coupons_serve hfits]
      exact fun coupon hcoupon hid => hnone ⟨coupon, hcoupon, hid⟩

/-- Three coupons, one of a restaurant that there is not. The second is deleted, then the first, and
the second once more. -/
def deletions : List Operation :=
  let form (id : RestaurantId) (name : String) : CouponForm :=
    ⟨id, name, "One cup", 6, 0, none, none, true⟩
  [.createRestaurant ⟨"Corner", "1 Main Street"⟩, .createCoupon (form ⟨1⟩ "Tea"),
    .createCoupon (form ⟨1⟩ ""), .createCoupon (form ⟨1⟩ "Coffee"),
    .createCoupon (form ⟨9⟩ "Milk"), .softDeleteCoupon ⟨3⟩, .softDeleteCoupon ⟨2⟩,
    .softDeleteCoupon ⟨7⟩, .softDeleteCoupon ⟨3⟩]

theorem deletions_kept :
    (serve deletions empty).ShowsCoupon (Call.Opened (calls deletions empty))
        ⟨⟨2⟩, ⟨1⟩, "Tea", "One cup", 6, 0, .indefinite, true⟩ ∧
      ((Operation.listCoupons ⟨1⟩).call (serve deletions empty)).answer =
        .ok (.coupons [⟨⟨2⟩, ⟨1⟩, "Tea", "One cup", 6, 0, .indefinite, true⟩,
          ⟨⟨3⟩, ⟨1⟩, "Coffee", "One cup", 6, 0, .indefinite, true⟩]) := by
  have hfits : (serve deletions empty).created < 2147483647 := by decide
  obtain ⟨hcreated, hlists, -⟩ := coupons_kept deletions hfits
  obtain ⟨-, hshown⟩ := hcreated [(Operation.createRestaurant _).call empty] _ _ _
    ⟨⟨2⟩, ⟨1⟩, "Tea", "One cup", 6, 0, .indefinite, false⟩ rfl rfl (by decide)
  refine ⟨hshown, (hlists ⟨1⟩).trans ?_⟩
  decide

end Memory

end Loyalty
