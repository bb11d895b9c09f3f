import Loyalty.Proofs.TableSteps
import Loyalty.Proofs.World

/-!
# The offers of a log

As long as identifiers do not run out, each is given once. So an achievement that is stored or was
shown is one that was created, an identifier tells which, and its numbers are those that a form in
order has. Coupons are never removed, and their prices stay as they were.
-/

namespace Loyalty

def offersIn (past : List Exchange) : List Achievement := past.filterMap Exchange.offered?

def Coupon.price (c : Coupon) : RestaurantId × Amount := (c.restaurantId, c.points)

theorem Exchange.offered?_eq_some_iff {x : Exchange} {achievement : Achievement} :
    x.offered? = some achievement ↔ ∃ input, x = ⟨.createAchievement input, .ok achievement⟩ := by
  constructor
  · intro h
    unfold offered? at h
    split at h
    · cases h
      exact ⟨_, rfl⟩
    · cases h
  · rintro ⟨input, rfl⟩
    rfl

theorem mem_offersIn_cons {past : List Exchange} {x : Exchange} {achievement : Achievement} :
    achievement ∈ offersIn (x :: past) ↔
      x.offered? = some achievement ∨ achievement ∈ offersIn past := by
  simp only [offersIn, List.mem_filterMap, List.mem_cons, exists_eq_or_imp]

/-- A reward is paid for an achievement that was shown. -/
theorem Request.Justified.shown_of_payment {past : List Exchange} {r : Request}
    {answer : Except StoreError r.Answer} {p : Payment} (h : r.Justified past)
    (hp : Exchange.payment? ⟨r, answer⟩ = some p) :
    ∃ a, (⟨.findAchievement p.achievementId, .ok (some a)⟩ : Exchange) ∈ past ∧
      p.reward = a.reward := by
  obtain ⟨row, reward, hx, rfl⟩ := Exchange.payment?_eq_some_iff.1 hp
  cases hx
  exact h

theorem NewAchievement.bounds_of_verdict {input : NewAchievement}
    (h : input.report.verdict = .ok ()) :
    0 ≤ input.points.toInt ∧ 0 ≤ input.experience.toInt ∧ 1 ≤ input.requirement.target.toInt := by
  rw [Report.verdict_eq_ok_iff] at h
  simp [report, achievementFieldReport, Report.entries_check, Int32.lt_iff_toInt_lt] at h
  omega

theorem CouponForm.validate_eq_ok {form : CouponForm} {input : NewCoupon}
    (h : form.validate = .ok input) :
    form.fieldReport.entries = [] ∧ ∃ validity, form.validity = .ok validity ∧
      input = ⟨form.restaurantId, form.name, form.description, form.points, form.level,
        validity⟩ := by
  unfold validate at h
  split at h
  · cases h
  · rename_i validity hvalidity
    cases hverdict : form.fieldReport.verdict with
    | error report =>
      rw [hverdict] at h
      cases h
    | ok _ =>
      rw [hverdict] at h
      cases h
      exact ⟨(Report.verdict_eq_ok_iff _).1 hverdict, validity, hvalidity, rfl⟩

theorem CouponForm.points_of_validate {form : CouponForm} {input : NewCoupon}
    (h : form.validate = .ok input) : 0 ≤ input.points.toInt := by
  obtain ⟨hentries, validity, -, rfl⟩ := validate_eq_ok h
  simp [fieldReport, Report.entries_check, Int32.lt_iff_toInt_lt] at hentries
  exact hentries.1

namespace Memory

variable {s s' : Memory} {x : Exchange}

theorem toInt_nextId (h : s.created < 2147483647) : s.nextId.toInt = s.created + 1 := by
  rw [nextId, Int32.toInt_ofNat_of_lt (by omega)]
  omega

namespace Change

theorem created_le (h : s.Change x s') : s.created ≤ s'.created := by
  cases h <;> simp

/-- A stored achievement was stored before or was just created. -/
theorem achievement (h : s.Change x s') {id : AchievementId} {achievement : Achievement}
    (hfound : s'.achievements.find? id = some achievement) :
    s.achievements.find? id = some achievement ∨ x.offered? = some achievement := by
  cases h with
  | @createAchievement input created hcreated =>
    by_cases hid : Keyed.key created = id
    · rw [Table.find?_put_of_eq hid] at hfound
      exact Or.inr hfound
    · rw [Table.find?_put_of_ne hid] at hfound
      exact Or.inl hfound
  | @deleteAchievement gone _ _ =>
    by_cases hid : gone = id
    · subst hid
      rw [Table.find?_erase_self] at hfound
      cases hfound
    · rw [Table.find?_erase_of_ne hid] at hfound
      exact Or.inl hfound
  | _ => exact Or.inl hfound

theorem offered (h : s.Change x s') {achievement : Achievement}
    (hoffered : x.offered? = some achievement) :
    achievement.id = ⟨s.nextId⟩ ∧ s'.created = s.created + 1 ∧
      ∃ input, x = ⟨.createAchievement input, .ok achievement⟩ ∧
        achievement.points = input.points ∧ achievement.experience = input.experience ∧
        achievement.target = input.requirement.target := by
  obtain ⟨input, rfl⟩ := Exchange.offered?_eq_some_iff.1 hoffered
  cases h with
  | nothing h => cases h
  | createAchievement hachievement =>
    subst hachievement
    exact ⟨rfl, rfl, input, rfl, rfl, rfl, rfl⟩

/-- A stored coupon was stored before at the same price, or was just created. -/
theorem coupon (h : s.Change x s') {id : CouponId} {coupon : Coupon}
    (hfound : s'.coupons.find? id = some coupon) :
    (∃ earlier, s.coupons.find? id = some earlier ∧ earlier.price = coupon.price) ∨
      id = ⟨s.nextId⟩ ∧ s'.created = s.created + 1 ∧
        ∃ input, x = ⟨.createCoupon input, .ok coupon⟩ ∧ coupon.points = input.points := by
  cases h with
  | @createCoupon input created hcreated =>
    by_cases hid : Keyed.key created = id
    · rw [Table.find?_put_of_eq hid] at hfound
      cases hfound
      subst hcreated
      exact Or.inr ⟨hid.symm, rfl, input, rfl, rfl⟩
    · rw [Table.find?_put_of_ne hid] at hfound
      exact Or.inl ⟨coupon, hfound, rfl⟩
  | @markDeleted marked earlier hmarked =>
    have hkey : Keyed.key { earlier with deleted := true } = marked :=
      (Table.find?_eq_some_iff.1 hmarked).2
    by_cases hid : marked = id
    · subst hid
      rw [Table.find?_put_of_eq hkey] at hfound
      cases hfound
      exact Or.inl ⟨earlier, hmarked, rfl⟩
    · rw [Table.find?_put_of_ne (by rwa [hkey])] at hfound
      exact Or.inl ⟨coupon, hfound, rfl⟩
  | _ => exact Or.inl ⟨coupon, hfound, rfl⟩

/-- A stored coupon keeps its price. -/
theorem coupon_kept (h : s.Change x s') {id : CouponId} {coupon : Coupon}
    (hfound : s.coupons.find? id = some coupon) (hid : id ≠ ⟨s.nextId⟩) :
    ∃ later, s'.coupons.find? id = some later ∧ later.price = coupon.price := by
  cases h with
  | @createCoupon input created hcreated =>
    subst hcreated
    rw [Table.find?_put_of_ne (fun hkey => hid hkey.symm)]
    exact ⟨coupon, hfound, rfl⟩
  | @markDeleted marked earlier hmarked =>
    have hkey : Keyed.key { earlier with deleted := true } = marked :=
      (Table.find?_eq_some_iff.1 hmarked).2
    by_cases hid : marked = id
    · subst hid
      rw [hmarked] at hfound
      cases hfound
      rw [Table.find?_put_of_eq hkey]
      exact ⟨_, rfl, rfl⟩
    · rw [Table.find?_put_of_ne (by rwa [hkey])]
      exact ⟨coupon, hfound, rfl⟩
  | _ => exact ⟨coupon, hfound, rfl⟩

end Change

end Memory

/-- What a log tells of the achievements and the coupons in its store. -/
structure Catalog (past : List Exchange) (s : Memory) : Prop where
  numbered : ∀ a ∈ offersIn past, 1 ≤ a.id.value.toInt ∧ a.id.value.toInt ≤ s.created
  distinct : ∀ a ∈ offersIn past, ∀ b ∈ offersIn past, a.id = b.id → a = b
  sound : ∀ a ∈ offersIn past,
    0 ≤ a.points.toInt ∧ 0 ≤ a.experience.toInt ∧ 1 ≤ a.target.toInt
  stored : ∀ (id : AchievementId) (a : Achievement),
    s.achievements.find? id = some a → a ∈ offersIn past
  shown : ∀ (id : AchievementId) (a : Achievement),
    (⟨.findAchievement id, .ok (some a)⟩ : Exchange) ∈ past → a ∈ offersIn past ∧ a.id = id
  couponNumbered : ∀ (id : CouponId) (c : Coupon), s.coupons.find? id = some c →
    1 ≤ id.value.toInt ∧ id.value.toInt ≤ s.created
  couponSound : ∀ (id : CouponId) (c : Coupon), s.coupons.find? id = some c → 0 ≤ c.points.toInt
  couponShown : ∀ (id : CouponId) (c : Coupon),
    (⟨.findCoupon id, .ok (some c)⟩ : Exchange) ∈ past →
      ∃ later, s.coupons.find? id = some later ∧ later.price = c.price

theorem catalog_empty : Catalog [] .empty where
  numbered _ ha := absurd ha List.not_mem_nil
  distinct _ ha := absurd ha List.not_mem_nil
  sound _ ha := absurd ha List.not_mem_nil
  stored _ _ hfound := nomatch hfound
  shown _ _ hshown := absurd hshown List.not_mem_nil
  couponNumbered _ _ hfound := nomatch hfound
  couponSound _ _ hfound := nomatch hfound
  couponShown _ _ hshown := absurd hshown List.not_mem_nil

theorem Catalog.ne_nextId {past : List Exchange} {s : Memory} (h : Catalog past s)
    (hfits : s.created < 2147483647) {a : Achievement} (ha : a ∈ offersIn past) :
    a.id ≠ ⟨s.nextId⟩ := by
  intro hid
  have hle := (h.numbered a ha).2
  rw [hid, Memory.toInt_nextId hfits] at hle
  omega

theorem Catalog.coupon_ne_nextId {past : List Exchange} {s : Memory} (h : Catalog past s)
    (hfits : s.created < 2147483647) {id : CouponId} {c : Coupon}
    (hc : s.coupons.find? id = some c) : id ≠ ⟨s.nextId⟩ := by
  rintro rfl
  have hle := (h.couponNumbered _ c hc).2
  rw [Memory.toInt_nextId hfits] at hle
  omega

theorem Catalog.step {past : List Exchange} {s s' : Memory} {r : Request}
    {answer : Except StoreError r.Answer} (h : Catalog past s)
    (hreason : r.movesPoints = true ∨ r.Justified past) (hanswer : s.Answers r answer s')
    (hfits : s.created < 2147483647) : Catalog (⟨r, answer⟩ :: past) s' := by
  have hchange := hanswer.change
  have hgrows := hchange.created_le
  have hnext := Memory.toInt_nextId hfits
  refine ⟨?_, ?_, ?_, ?_, ?_, ?_, ?_, ?_⟩
  · intro a ha
    rcases mem_offersIn_cons.1 ha with hoffered | ha
    · obtain ⟨hid, hcreated, _⟩ := hchange.offered hoffered
      rw [hid, hnext]
      omega
    · have := h.numbered a ha
      omega
  · intro a ha b hb hab
    rcases mem_offersIn_cons.1 ha with hoffered | ha
    · rcases mem_offersIn_cons.1 hb with hoffered' | hb
      · exact Option.some.inj (hoffered.symm.trans hoffered')
      · exact absurd (hab.symm.trans (hchange.offered hoffered).1) (h.ne_nextId hfits hb)
    · rcases mem_offersIn_cons.1 hb with hoffered | hb
      · exact absurd (hab.trans (hchange.offered hoffered).1) (h.ne_nextId hfits ha)
      · exact h.distinct a ha b hb hab
  · intro a ha
    rcases mem_offersIn_cons.1 ha with hoffered | ha
    · obtain ⟨-, -, input, hx, hpoints, hexperience, htarget⟩ := hchange.offered hoffered
      cases hx
      rw [hpoints, hexperience, htarget]
      rcases hreason with hmoves | hverdict
      · cases hmoves
      · exact NewAchievement.bounds_of_verdict hverdict
    · exact h.sound a ha
  · intro id a hfound
    rw [mem_offersIn_cons]
    exact (hchange.achievement hfound).symm.imp_right (h.stored id a)
  · intro id a hshown
    rw [mem_offersIn_cons]
    rcases List.mem_cons.1 hshown with heq | hshown
    · cases heq
      have hfound := hanswer.achievement
      exact ⟨Or.inr (h.stored id a hfound), (Table.find?_eq_some_iff.1 hfound).2⟩
    · exact (h.shown id a hshown).imp_left Or.inr
  · intro id c hfound
    rcases hchange.coupon hfound with ⟨earlier, hearlier, _⟩ | ⟨rfl, hcreated, _⟩
    · have := h.couponNumbered id earlier hearlier
      omega
    · rw [hnext]
      omega
  · intro id c hfound
    rcases hchange.coupon hfound with ⟨earlier, hearlier, hprice⟩ | ⟨_, _, input, hx, hpoints⟩
    · rw [← show earlier.points = c.points from congrArg Prod.snd hprice]
      exact h.couponSound id earlier hearlier
    · cases hx
      rw [hpoints]
      rcases hreason with hmoves | ⟨form, hform⟩
      · cases hmoves
      · exact CouponForm.points_of_validate hform
  · intro id c hshown
    have hbefore : ∃ later, s.coupons.find? id = some later ∧ later.price = c.price := by
      rcases List.mem_cons.1 hshown with heq | hshown
      · cases heq
        exact ⟨c, hanswer.coupon, rfl⟩
      · exact h.couponShown id c hshown
    obtain ⟨earlier, hearlier, hprice⟩ := hbefore
    obtain ⟨later, hlater, hkept⟩ :=
      hchange.coupon_kept hearlier (h.coupon_ne_nextId hfits hearlier)
    exact ⟨later, hlater, hkept.trans hprice⟩

theorem Logged.catalog {direct : Prop} {past : List Exchange} {s : Memory}
    (h : Logged direct past s) (hfits : s.created < 2147483647) : Catalog past s := by
  induction h with
  | empty => exact catalog_empty
  | answered h hreason hanswer ih =>
    have hgrows := hanswer.change.created_le
    exact (ih (by omega)).step (hreason.imp_left And.right) hanswer (by omega)

end Loyalty
