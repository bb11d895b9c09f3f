import Loyalty.Proofs.CouponRecords
import Loyalty.Proofs.Redemptions
import Loyalty.Proofs.Visits

/-!
# Availability

An offer is listed until its last day has passed, and can be used on the days of its validity. The
two are told by comparisons of their own, which agree: what is not listed cannot be used, and what
is listed can be used unless its first day is still to come.
-/

namespace Loyalty

open Memory

namespace DateWindow

variable {w : DateWindow} {day : Date}

theorem statusOn_eq_after_iff : w.statusOn day = .after ↔ w.closes < day := by
  unfold statusOn
  split
  · simp [*]
  · split <;> simp [*]

theorem statusOn_eq_before_iff : w.statusOn day = .before ↔ day < w.opens := by
  have hordered := w.opens_le_closes
  rw [Date.le_def] at hordered
  unfold statusOn
  split
  · rename_i hended
    rw [Date.lt_def] at hended ⊢
    simp only [reduceCtorEq, false_iff]
    omega
  · split <;> simp [*]

end DateWindow

namespace Validity

variable {v : Validity} {day : Date}

def BeginsAfter (v : Validity) (day : Date) : Prop := ∃ w, v = .window w ∧ day < w.opens

theorem statusOn_eq_before_iff : v.statusOn day = .before ↔ v.BeginsAfter day := by
  cases v with
  | indefinite => simp [statusOn, BeginsAfter]
  | window w => simp [statusOn, BeginsAfter, DateWindow.statusOn_eq_before_iff]

theorem hasEndedOn_eq (v : Validity) (day : Date) :
    v.hasEndedOn day = (v.statusOn day == .after) := by
  cases v with
  | indefinite => rfl
  | window w =>
    rw [Bool.eq_iff_iff, beq_iff_eq, statusOn, DateWindow.statusOn_eq_after_iff]
    exact decide_eq_true_iff

end Validity

/-- Listing and use agree on an offer, where `kept` says that nobody has withdrawn it and `early`
that its first day is still to come. -/
structure Agrees (kept early listed active refused : Prop) : Prop where
  refused_iff : refused ↔ ¬ (listed ∧ active)
  refused_of_listed : listed → (refused ↔ early)
  listed_refused_iff : listed ∧ refused ↔ kept ∧ early

theorem agrees_of_statusOn {v : Validity} {day : Date} {kept listed active refused : Prop}
    (hlisted : listed ↔ kept ∧ v.hasEndedOn day = false)
    (hactive : active ↔ v.statusOn day = .active)
    (hrefused : refused ↔ ¬ (kept ∧ v.statusOn day = .active)) :
    Agrees kept (v.BeginsAfter day) listed active refused := by
  rw [Validity.hasEndedOn_eq] at hlisted
  have hearly : v.statusOn day = .before ↔ v.BeginsAfter day := Validity.statusOn_eq_before_iff
  constructor <;> cases hstatus : v.statusOn day <;> simp_all

namespace Coupons

variable {s : Memory} {id : CouponId} {c : Coupon}

/-- Once a coupon was found live, it is not refused as unavailable. -/
theorem keeps_spend (id : CouponId) (curve : LevelCurve) (c : Coupon) (userId : UserId)
    (past : List Exchange) : (spend curve c userId).Keeps (fun _ _ => True)
      (fun _ result => result ≠ .error (.unavailable id)) past := by
  refine ⟨trivial, ?_⟩
  rintro (e | found) _
  · exact nofun
  · refine Script.Keeps.require (fun _ => ?_) fun _ => nofun
    split
    · exact nofun
    · refine Script.Keeps.require (fun _ => ⟨trivial, ?_⟩) fun _ => nofun
      rintro (e | _ | rest) _ <;> exact nofun

theorem run_redeem (h : s.coupons.find? id = some c) (curve : LevelCurve) (today : Date)
    (userId : UserId) : (redeem curve today userId id).run handle s =
      (Script.require (c.isRedeemableOn today) (.unavailable id) >>= fun _ =>
        spend curve c userId).run handle s := by
  rw [redeem, Script.bind_eq, Script.run_bind, run_get h]
  rfl

theorem redeem_unavailable_iff (h : s.coupons.find? id = some c) (curve : LevelCurve)
    (today : Date) (userId : UserId) :
    ((Operation.redeem curve today userId id).call s).answer = .error (.coupon (.unavailable id)) ↔
      c.isRedeemableOn today = false := by
  rw [Operation.call, Operation.script, Script.run_relabel, run_redeem h]
  cases hlive : c.isRedeemableOn today with
  | false => exact iff_of_true rfl rfl
  | true =>
    obtain ⟨_, -, hend⟩ := (keeps_spend id curve c userId []).run (s := s)
      (P := fun _ _ => True) trivial fun _ _ _ _ _ => trivial
    refine iff_of_false (fun hrefused => hend ?_) Bool.noConfusion
    change Script.relabelResult _ _ ((spend curve c userId).run handle s).1 = _ at hrefused
    generalize ((spend curve c userId).run handle s).1 = result at *
    cases result with
    | ok balance => cases hrefused
    | error e =>
      cases hrefused
      rfl

end Coupons

namespace Achievements

/-- The result is not that the achievement is inactive. -/
def Accepted {α : Type} : Except AchievementError α → Prop
  | .error (.inactive _) => False
  | _ => True

theorem Accepted.of_error {α β : Type} {e : AchievementError}
    (h : Accepted (.error e : Except _ α)) : Accepted (.error e : Except _ β) := by
  cases e <;> exact h

section Accepted

variable (achievementId : AchievementId) (userId : UserId) (past : List Exchange)

theorem accepts_findProgress :
    (findProgress achievementId userId).Keeps (fun _ _ => True) (fun _ => Accepted) past := by
  refine ⟨trivial, ?_⟩
  rintro (e | _ | row) _ <;> trivial

theorem accepts_count :
    (count achievementId userId).Keeps (fun _ _ => True) (fun _ => Accepted) past := by
  refine ⟨trivial, ?_⟩
  rintro (e | _ | row) _
  · trivial
  · change (findProgress achievementId userId >>= _).Keeps _ _ _
    apply (accepts_findProgress achievementId userId _).bind
    · exact fun past row _ => Script.Keeps.require (fun _ => trivial) fun _ => trivial
    · exact fun past e h => h.of_error
  · trivial

theorem accepts_complete (row : Progress) :
    (complete row).Keeps (fun _ _ => True) (fun _ => Accepted) past := by
  refine Script.Keeps.require (fun _ => ⟨trivial, ?_⟩) fun _ => trivial
  rintro (e | _ | achievement) _
  · trivial
  · trivial
  · refine ⟨trivial, ?_⟩
    rintro (e | _ | _) _ <;> trivial

theorem accepts_advance (row : Progress) :
    (advance row).Keeps (fun _ _ => True) (fun _ => Accepted) past := by
  apply (accepts_count row.achievementId row.userId past).bind
  · intro past counted _
    split
    · apply (accepts_complete past counted).bind
      · exact fun past reward _ => trivial
      · exact fun past e h => h.of_error
    · trivial
  · exact fun past e h => h.of_error

theorem accepts_start (total : Amount) :
    (start achievementId userId total).Keeps (fun _ _ => True) (fun _ => Accepted) past := by
  refine ⟨trivial, ?_⟩
  rintro (e | row) _
  · change (if e.kind = .conflict then _ else _ : Script _ _).Keeps _ _ _
    split
    · exact accepts_findProgress achievementId userId _
    · trivial
  · trivial

end Accepted

variable {s : Memory} {id : AchievementId} {a : Achievement}

/-- Goes on with counting an action after the achievement was found active. -/
def resume (userId : UserId) (id : AchievementId) (target : Amount) :
    Script AchievementError Outcome := do
  let found ← Script.ask .store (.findProgress id userId)
  let row ←
    match (found : Option Progress) with
    | some row => pure row
    | none => start id userId target
  advance row

/-- Once an achievement was found active, it is not refused as inactive. -/
theorem accepts_resume (userId : UserId) (id : AchievementId) (target : Amount)
    (past : List Exchange) :
    (resume userId id target).Keeps (fun _ _ => True) (fun _ => Accepted) past := by
  refine ⟨trivial, ?_⟩
  rintro (e | _ | row) _
  · trivial
  · apply (accepts_start id userId _ target).bind
    · exact fun past row _ => accepts_advance past row
    · exact fun past e h => h.of_error
  · exact accepts_advance _ row

theorem run_record_stored (h : s.achievements.find? id = some a) (today : Date) (userId : UserId) :
    (record today userId id).run handle s =
      (Script.require (a.requirement.statusOn today == .active) (.inactive id) >>= fun _ =>
        resume userId id a.target).run handle s := by
  rw [record, Script.bind_eq, Script.run_bind, run_get_ok h]
  rfl

theorem record_inactive_iff (h : s.achievements.find? id = some a) (today : Date)
    (userId : UserId) :
    ((Operation.record today userId id).call s).answer = .error (.achievement (.inactive id)) ↔
      (a.requirement.statusOn today == .active) = false := by
  rw [Operation.call, Operation.script, Script.run_relabel, run_record_stored h]
  cases hactive : a.requirement.statusOn today == .active with
  | false => exact iff_of_true rfl rfl
  | true =>
    obtain ⟨_, -, hend⟩ := (accepts_resume userId id a.target []).run (s := s)
      (P := fun _ _ => True) trivial fun _ _ _ _ _ => trivial
    refine iff_of_false (fun hrefused => ?_) Bool.noConfusion
    change Script.relabelResult _ _ ((resume userId id a.target).run handle s).1 = _ at hrefused
    generalize ((resume userId id a.target).run handle s).1 = result at *
    cases result with
    | ok outcome => cases hrefused
    | error e =>
      cases hrefused
      exact hend

end Achievements

namespace Memory

/-- On any day, whatever is stored: a coupon is refused as unavailable just where it is not listed
or not shown as active, and an achievement as inactive just where it is not listed or not active.
What is listed but refused is what has not begun. -/
theorem listing_agrees (s : Memory) (today : Date) :
    (∀ c ∈ s.coupons.rows, ∃ listed : List Coupon,
      ((Operation.listValidCoupons today c.restaurantId).call s).answer = .ok (.coupons listed) ∧
        ∀ curve userId, Agrees (c.deleted = false) (c.validity.BeginsAfter today) (c ∈ listed)
          (((Operation.getCouponDetails today c.id).call s).answer =
            .ok (.couponDetails ⟨c, .active⟩))
          (((Operation.redeem curve today userId c.id).call s).answer =
            .error (.coupon (.unavailable c.id)))) ∧
      ∀ a ∈ s.achievements.rows, ∃ listed : List Achievement,
        ((Operation.listActiveAchievements today a.restaurantId).call s).answer =
            .ok (.achievements listed) ∧
          ∀ userId, Agrees True (a.requirement.validity.BeginsAfter today) (a ∈ listed)
            (a.requirement.statusOn today = .active)
            (((Operation.record today userId a.id).call s).answer =
              .error (.achievement (.inactive a.id))) := by
  refine ⟨?_, ?_⟩
  · intro c hc
    have hfound : s.coupons.find? c.id = some c := Table.find?_eq_some_iff.2 ⟨hc, rfl⟩
    refine ⟨_, rfl, fun curve userId => agrees_of_statusOn ?_ ?_ ?_⟩
    · rw [Coupon.filterValidOn, List.mem_filter, Coupon.isValidOn]
      simp [listCoupons, hc]
    · rw [(showsCoupon_of_mem hc fun _ => Iff.rfl).details today]
      simp [Coupon.statusOn]
    · rw [Coupons.redeem_unavailable_iff hfound, Coupon.isRedeemableOn]
      simp [Coupon.statusOn]
  · intro a ha
    have hfound : s.achievements.find? a.id = some a := Table.find?_eq_some_iff.2 ⟨ha, rfl⟩
    refine ⟨_, rfl, fun userId => agrees_of_statusOn ?_ Iff.rfl ?_⟩
    · rw [List.mem_filter]
      simp [listAchievements, ha]
    · rw [Achievements.record_inactive_iff hfound]
      simp [Requirement.statusOn]

def nextYear : DateWindow := ⟨⟨2025, 1, 1, by decide⟩, ⟨2025, 12, 31, by decide⟩, by decide⟩

def announcements : List Operation :=
  [.createCoupon ⟨⟨1⟩, "Tea", "One cup", 0, 0, some nextYear.opens, some nextYear.closes, false⟩,
    .createAchievement ⟨⟨1⟩, "Welcome", 5, 10, ⟨.visit 3, .window nextYear⟩⟩]

/-- A year before, both are listed and refused. -/
theorem announcements_agree :
    (∃ listed, ((Operation.listValidCoupons .newYear ⟨1⟩).call (serve announcements empty)).answer =
        .ok (.coupons listed) ∧
      ⟨⟨1⟩, ⟨1⟩, "Tea", "One cup", 0, 0, .window nextYear, false⟩ ∈ listed ∧
        ((Operation.redeem .standard .newYear ⟨7⟩ ⟨1⟩).call (serve announcements empty)).answer =
          .error (.coupon (.unavailable ⟨1⟩))) ∧
      ∃ listed,
        ((Operation.listActiveAchievements .newYear ⟨1⟩).call (serve announcements empty)).answer =
            .ok (.achievements listed) ∧
          ⟨⟨2⟩, ⟨1⟩, "Welcome", 5, 10, ⟨.visit 3, .window nextYear⟩⟩ ∈ listed ∧
            ((Operation.record .newYear ⟨7⟩ ⟨2⟩).call (serve announcements empty)).answer =
              .error (.achievement (.inactive ⟨2⟩)) := by
  have hearly : (Validity.window nextYear).BeginsAfter .newYear := ⟨nextYear, rfl, by decide⟩
  obtain ⟨hcoupons, hachievements⟩ := listing_agrees (serve announcements empty) .newYear
  obtain ⟨listed, hlist, hagrees⟩ :=
    hcoupons ⟨⟨1⟩, ⟨1⟩, "Tea", "One cup", 0, 0, .window nextYear, false⟩ (by decide)
  obtain ⟨listed', hlist', hagrees'⟩ :=
    hachievements ⟨⟨2⟩, ⟨1⟩, "Welcome", 5, 10, ⟨.visit 3, .window nextYear⟩⟩ (by decide)
  exact ⟨⟨listed, hlist, (hagrees .standard ⟨7⟩).listed_refused_iff.2 ⟨rfl, hearly⟩⟩,
    listed', hlist', (hagrees' ⟨7⟩).listed_refused_iff.2 ⟨trivial, hearly⟩⟩

end Memory

end Loyalty
