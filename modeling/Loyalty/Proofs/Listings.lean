import Loyalty.Proofs.Availability
import Loyalty.Proofs.Refusals

/-!
# Listings as time goes by

A last day that has passed stays passed, a deletion is not taken back, and no number is given out
twice. So as the days go by the lists of the offers only lose what they held, and gain what is
created. What has left a list is refused from then on.
-/

namespace Loyalty

open Memory Chronicle

theorem Validity.hasEndedOn_mono {v : Validity} {day today : Date} (hdays : day ≤ today)
    (h : v.hasEndedOn day = true) : v.hasEndedOn today = true := by
  cases v with
  | indefinite => cases h
  | window w =>
    have hended : w.closes < day := of_decide_eq_true h
    refine decide_eq_true (p := w.closes < today) ?_
    rw [Date.le_def] at hdays
    rw [Date.lt_def] at hended ⊢
    omega

theorem Validity.hasEndedOn_of_later {v : Validity} {day today : Date} (hdays : day ≤ today)
    (h : v.hasEndedOn today = false) : v.hasEndedOn day = false := by
  cases hended : v.hasEndedOn day with
  | false => rfl
  | true => rw [← h, hasEndedOn_mono hdays hended]

namespace Coupon

def isListedOn (restaurantId : RestaurantId) (day : Date) (c : Coupon) : Bool :=
  c.isValidOn day && decide (c.restaurantId = restaurantId)

theorem isListedOn_iff {restaurantId : RestaurantId} {day : Date} {c : Coupon} :
    c.isListedOn restaurantId day = true ↔
      c.deleted = false ∧ c.validity.hasEndedOn day = false ∧ c.restaurantId = restaurantId := by
  simp [isListedOn, isValidOn, and_assoc]

/-- A coupon that is listed later was listed before, and is as it was. -/
theorem isListedOn_of_lasting {restaurantId : RestaurantId} {day today : Date}
    (hdays : day ≤ today) (later : List Call) (c left : Coupon)
    (hleft : lasting Call.couponEntry later c = some left)
    (hlisted : left.isListedOn restaurantId today = true) :
    left = c ∧ c.isListedOn restaurantId day = true := by
  rw [lasting_coupon] at hleft
  cases hleft
  obtain ⟨hdeleted, hopen, hrestaurant⟩ := isListedOn_iff.1 hlisted
  obtain ⟨hkept, hspared⟩ := Bool.or_eq_false_iff.1 hdeleted
  refine ⟨?_, isListedOn_iff.2 ⟨hkept, Validity.hasEndedOn_of_later hdays hopen, hrestaurant⟩⟩
  rw [Coupon.after, hspared, Bool.or_false]

end Coupon

namespace Achievement

def isListedOn (restaurantId : RestaurantId) (day : Date) (a : Achievement) : Bool :=
  !a.requirement.validity.hasEndedOn day && decide (a.restaurantId = restaurantId)

theorem isListedOn_iff {restaurantId : RestaurantId} {day : Date} {a : Achievement} :
    a.isListedOn restaurantId day = true ↔
      a.requirement.validity.hasEndedOn day = false ∧ a.restaurantId = restaurantId := by
  simp [isListedOn]

theorem eq_of_lasting {later : List Call} {a left : Achievement}
    (h : lasting Call.achievementEntry later a = some left) : left = a := by
  induction later generalizing a with
  | nil => exact (Option.some.inj h).symm
  | cons c later ih =>
    obtain ⟨next, hnext, hleft⟩ := Option.bind_eq_some_iff.1 h
    have hkept : next = a := by
      unfold Call.achievementEntry at hnext
      split at hnext
      · exact (Option.some.inj hnext).symm
      · exact (Option.some.inj hnext).symm
      · simp only [Entry.fate] at hnext
        split at hnext
        · cases hnext
        · exact (Option.some.inj hnext).symm
      · exact (Option.some.inj hnext).symm
    rw [ih hleft, hkept]

theorem isListedOn_of_lasting {restaurantId : RestaurantId} {day today : Date}
    (hdays : day ≤ today) (later : List Call) (a left : Achievement)
    (hleft : lasting Call.achievementEntry later a = some left)
    (hlisted : left.isListedOn restaurantId today = true) :
    left = a ∧ a.isListedOn restaurantId day = true := by
  obtain rfl := eq_of_lasting hleft
  obtain ⟨hopen, hrestaurant⟩ := isListedOn_iff.1 hlisted
  exact ⟨rfl, isListedOn_iff.2 ⟨Validity.hasEndedOn_of_later hdays hopen, hrestaurant⟩⟩

end Achievement

/-- From an earlier list of a run to a later one. The later list stands in the order of creation.
What it holds of the rows that were there earlier is in the earlier list, in this order. A row that
was there earlier and is not in the earlier list is not in the later one, and is refused. -/
structure Fades {ρ κ : Type} [Keyed ρ κ] [DecidableEq κ] (entry : Call → Entry ρ κ)
    (earlier all : List Call) (belongs : ρ → Prop) (refused : κ → Prop) (before after : List ρ) :
    Prop where
  order : (after.map Keyed.key).Sublist ((entered entry all).map Keyed.key)
  survivors : (after.filter fun row =>
    decide (Keyed.key row ∈ (entered entry earlier).map Keyed.key)).Sublist before
  away : ∀ row ∈ entered entry earlier, belongs row →
    (∀ x ∈ before, Keyed.key x ≠ Keyed.key row) →
      (∀ x ∈ after, Keyed.key x ≠ Keyed.key row) ∧ refused (Keyed.key row)

/-- The lists of a table fade if what is listed later was listed before, and what is missing later
is refused. -/
theorem Chronicle.fades {ρ κ : Type} [Ranked κ] [Keyed ρ κ] [DecidableEq κ]
    {table : Memory → Table ρ} {entry : Call → Entry ρ κ} (h : Chronicle table entry)
    {first later : List Operation} (hfits : (serve (first ++ later) empty).created < 2147483647)
    {listed relisted : ρ → Bool}
    (hlisted : ∀ cs row left, lasting entry cs row = some left → relisted left = true →
      left = row ∧ listed row = true)
    {belongs : ρ → Prop} {refused : κ → Prop}
    (hrefused : ∀ row ∈ entered entry (calls (first ++ later) empty), belongs row →
      (∀ x ∈ (table (serve (first ++ later) empty)).rows.filter relisted,
        Keyed.key x ≠ Keyed.key row) → refused (Keyed.key row)) :
    Fades entry (calls first empty) (calls (first ++ later) empty) belongs refused
      ((table (serve first empty)).rows.filter listed)
      ((table (serve (first ++ later) empty)).rows.filter relisted) := by
  have hsurvivors := h.survivors_sublist hlisted first later hfits
  refine ⟨?_, hsurvivors, ?_⟩
  · have hrows := h.rows_of_empty (first ++ later) hfits
    refine (List.filter_sublist.map Keyed.key).trans ?_
    rw [hrows]
    exact h.keys_sublist _
  · intro row hrow hbelongs hgone
    have haway : ∀ x ∈ (table (serve (first ++ later) empty)).rows.filter relisted,
        Keyed.key x ≠ Keyed.key row := by
      intro x hx hkey
      refine hgone x (hsurvivors.subset (List.mem_filter.2 ⟨hx, ?_⟩)) hkey
      exact decide_eq_true (hkey ▸ List.mem_map_of_mem hrow)
    refine ⟨haway, hrefused row ?_ hbelongs haway⟩
    rw [calls_append, entered_append]
    exact List.mem_append_left _ hrow

namespace Memory

variable {ops : List Operation} {today : Date} {s : Memory}

theorem listValid_eq (restaurantId : RestaurantId) (day : Date) (s : Memory) :
    ((Operation.listValidCoupons day restaurantId).call s).answer =
      .ok (.coupons (s.coupons.rows.filter (Coupon.isListedOn restaurantId day))) := by
  have hfilter : s.coupons.rows.filter (Coupon.isListedOn restaurantId day) =
      Coupon.filterValidOn (s.listCoupons restaurantId) day := (List.filter_filter).symm
  rw [hfilter]
  rfl

theorem listActive_eq (restaurantId : RestaurantId) (day : Date) (s : Memory) :
    ((Operation.listActiveAchievements day restaurantId).call s).answer = .ok (.achievements
      (s.achievements.rows.filter (Achievement.isListedOn restaurantId day))) := by
  have hfilter : s.achievements.rows.filter (Achievement.isListedOn restaurantId day) =
      (s.listAchievements restaurantId).filter fun a => !a.requirement.validity.hasEndedOn day :=
    (List.filter_filter).symm
  rw [hfilter]
  rfl

def RefusesCoupon (s : Memory) (day : Date) (id : CouponId) : Prop :=
  ∀ curve userId, ((Operation.redeem curve day userId id).call s).answer =
    .error (.coupon (.unavailable id))

def RefusesAchievement (s : Memory) (day : Date) (id : AchievementId) : Prop :=
  ∀ userId,
    ((Operation.record day userId id).call s).answer = .error (.achievement (.inactive id)) ∨
      ((Operation.record day userId id).call s).answer = .error (.achievement (.notFound id))

theorem refusesCoupon_of_unlisted (hfits : (serve ops empty).created < 2147483647) {c : Coupon}
    (hc : c ∈ entered Call.couponEntry (calls ops empty))
    (hgone : ∀ x ∈ (serve ops empty).coupons.rows.filter (Coupon.isListedOn c.restaurantId today),
      x.id ≠ c.id) : (serve ops empty).RefusesCoupon today c.id := by
  obtain ⟨d, hd, hnew⟩ := List.mem_filterMap.1 hc
  obtain ⟨form, hop, hanswer⟩ := Call.couponEntry_eq_some_iff.1 hnew
  obtain ⟨before, later, hsplit⟩ := List.append_of_mem hd
  have hstored : c.after later ∈ (serve ops empty).coupons.rows := by
    rw [coupons_serve hfits]
    exact Call.mem_couponsOf.2 ⟨before, d, later, form, c, hsplit, hop, hanswer, rfl⟩
  have hfound : (serve ops empty).coupons.find? c.id = some (c.after later) :=
    Table.find?_eq_some_iff.2 ⟨hstored, rfl⟩
  intro curve userId
  rw [Coupons.redeem_unavailable_iff hfound, Bool.eq_false_iff]
  intro hlive
  obtain ⟨hkept, hactive⟩ := Bool.and_eq_true_iff.1 hlive
  refine hgone _ (List.mem_filter.2 ⟨hstored, Coupon.isListedOn_iff.2 ⟨?_, ?_, rfl⟩⟩) rfl
  · simpa using hkept
  · rw [Validity.hasEndedOn_eq, ← Coupon.statusOn, beq_iff_eq.1 hactive]
    rfl

theorem refusesAchievement_of_unlisted (hfits : (serve ops empty).created < 2147483647)
    {a : Achievement} (ha : a ∈ entered Call.achievementEntry (calls ops empty))
    (hgone : ∀ x ∈ (serve ops empty).achievements.rows.filter
      (Achievement.isListedOn a.restaurantId today), x.id ≠ a.id) :
    (serve ops empty).RefusesAchievement today a.id := by
  intro userId
  rw [Operation.call, Operation.script, Script.run_relabel]
  cases hfound : (serve ops empty).achievements.find? a.id with
  | none =>
    rw [Achievements.run_record_absent hfound]
    exact Or.inr rfl
  | some x =>
    obtain ⟨hx, hid⟩ := Table.find?_eq_some_iff.1 hfound
    obtain ⟨later, hlater⟩ := Call.chronicle_achievements.exists_lasting hfits ha hx hid
    obtain rfl := Achievement.eq_of_lasting hlater
    have hended : x.requirement.validity.hasEndedOn today = true := by
      rw [← Bool.not_eq_false]
      intro hopen
      exact hgone x (List.mem_filter.2 ⟨hx, Achievement.isListedOn_iff.2 ⟨hopen, rfl⟩⟩) rfl
    have hinactive : x.requirement.statusOn today ≠ .active := by
      rw [Validity.hasEndedOn_eq, beq_iff_eq] at hended
      intro hactive
      rw [Requirement.statusOn, hended] at hactive
      cases hactive
    rw [Achievements.run_record_inactive hfound hinactive]
    exact Or.inl rfl

/-- From a day of a run to a later one, whatever calls are made in between, the lists of a
restaurant fade. A coupon that has left them is refused as unavailable, an achievement as inactive
or as not found. -/
theorem listings_fade (first later : List Operation) {day today : Date} (hdays : day ≤ today)
    (hfits : (serve (first ++ later) empty).created < 2147483647) (restaurantId : RestaurantId) :
    (∃ before after : List Coupon,
      ((Operation.listValidCoupons day restaurantId).call (serve first empty)).answer =
          .ok (.coupons before) ∧
        ((Operation.listValidCoupons today restaurantId).call
            (serve (first ++ later) empty)).answer = .ok (.coupons after) ∧
          Fades Call.couponEntry (calls first empty) (calls (first ++ later) empty)
            (fun c => c.restaurantId = restaurantId)
            ((serve (first ++ later) empty).RefusesCoupon today) before after) ∧
      ∃ before after : List Achievement,
        ((Operation.listActiveAchievements day restaurantId).call (serve first empty)).answer =
            .ok (.achievements before) ∧
          ((Operation.listActiveAchievements today restaurantId).call
              (serve (first ++ later) empty)).answer = .ok (.achievements after) ∧
            Fades Call.achievementEntry (calls first empty) (calls (first ++ later) empty)
              (fun a => a.restaurantId = restaurantId)
              ((serve (first ++ later) empty).RefusesAchievement today) before after := by
  refine ⟨⟨_, _, listValid_eq restaurantId day _, listValid_eq restaurantId today _, ?_⟩,
    _, _, listActive_eq restaurantId day _, listActive_eq restaurantId today _, ?_⟩
  · refine Call.chronicle_coupons.fades hfits (Coupon.isListedOn_of_lasting hdays) ?_
    rintro c hc rfl hgone
    exact refusesCoupon_of_unlisted hfits hc hgone
  · refine Call.chronicle_achievements.fades hfits (Achievement.isListedOn_of_lasting hdays) ?_
    rintro a ha rfl hgone
    exact refusesAchievement_of_unlisted hfits ha hgone

def january : DateWindow := ⟨.newYear, ⟨2024, 1, 31, by decide⟩, by decide⟩

def januaryOffers : List Operation :=
  [.createCoupon ⟨⟨9⟩, "Tea", "One cup", 0, 0, some january.opens, some january.closes, false⟩,
    .createCoupon ⟨⟨9⟩, "Coffee", "One cup", 0, 0, none, none, true⟩,
    .createAchievement ⟨⟨9⟩, "Welcome", 5, 10, ⟨.visit 1, .window january⟩⟩]

/-- In February the coupon without end is deleted, another one created, and the achievement of
January deleted. -/
def februaryChanges : List Operation :=
  [.softDeleteCoupon ⟨2⟩, .createCoupon ⟨⟨9⟩, "Milk", "One cup", 0, 0, none, none, true⟩,
    .deleteAchievement ⟨3⟩]

theorem januaryOffers_fade :
    (serve (januaryOffers ++ februaryChanges) empty).RefusesCoupon ⟨2024, 3, 1, by decide⟩ ⟨1⟩ ∧
      (serve (januaryOffers ++ februaryChanges) empty).RefusesAchievement ⟨2024, 3, 1, by decide⟩
        ⟨3⟩ := by
  have hfits : (serve (januaryOffers ++ februaryChanges) empty).created < 2147483647 := by decide
  have hdays : (⟨2024, 2, 1, by decide⟩ : Date) ≤ ⟨2024, 3, 1, by decide⟩ := by decide
  obtain ⟨⟨before, _, hbefore, -, hcoupons⟩, before', _, hbefore', -, hachievements⟩ :=
    listings_fade januaryOffers februaryChanges hdays hfits ⟨9⟩
  rw [listValid_eq] at hbefore
  rw [listActive_eq] at hbefore'
  cases hbefore
  cases hbefore'
  refine ⟨(hcoupons.away ⟨⟨1⟩, ⟨9⟩, "Tea", "One cup", 0, 0, .window january, false⟩ ?_ rfl ?_).2,
    (hachievements.away ⟨⟨3⟩, ⟨9⟩, "Welcome", 5, 10, ⟨.visit 1, .window january⟩⟩ ?_ rfl ?_).2⟩ <;>
    decide

end Memory

end Loyalty
