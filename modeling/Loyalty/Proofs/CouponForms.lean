import Loyalty.Proofs.Allotments

/-!
# Which coupon forms are accepted

A form fails some of its checks and is answered these, in the order in which they are made, or it
fails none and is stored as it stands. Of the two checks of the days at most one fails, and one does
wherever the days describe no validity. So no form is accepted that does not tell its validity, and
whatever a reader of forms falls back on is never taken.
-/

namespace Loyalty

namespace CouponComplaint

def fieldChecks : List CouponComplaint := [.negativePoints, .nameMissing, .negativeLevel]

def dayChecks : List CouponComplaint := [.datesInverted, .dateMissing]

def concernsDays (complaint : CouponComplaint) : Bool := complaint ∈ dayChecks

end CouponComplaint

namespace CouponForm

open CouponComplaint

/-- The form has the flaw. Under a set flag the days have none. -/
def Fails (form : CouponForm) : CouponComplaint → Prop
  | .negativePoints => form.points < 0
  | .nameMissing => form.name = ""
  | .negativeLevel => form.level < 0
  | .datesInverted =>
    form.isIndefinite = false ∧
      ∃ opens ∈ form.opens, ∃ closes ∈ form.closes, closes < opens
  | .dateMissing => form.isIndefinite = false ∧ (form.opens = none ∨ form.closes = none)

instance (form : CouponForm) : DecidablePred form.Fails := fun complaint =>
  match complaint with
  | .negativePoints => inferInstanceAs (Decidable (form.points < 0))
  | .nameMissing => inferInstanceAs (Decidable (form.name = ""))
  | .negativeLevel => inferInstanceAs (Decidable (form.level < 0))
  | .datesInverted =>
    inferInstanceAs (Decidable (form.isIndefinite = false ∧
      ∃ opens ∈ form.opens, ∃ closes ∈ form.closes, closes < opens))
  | .dateMissing =>
    inferInstanceAs (Decidable (form.isIndefinite = false ∧
      (form.opens = none ∨ form.closes = none)))

def dayComplaints (form : CouponForm) : List CouponComplaint :=
  dayChecks.filter fun complaint => form.Fails complaint

def complaints (form : CouponForm) : List CouponComplaint :=
  (fieldChecks ++ dayChecks).filter fun complaint => form.Fails complaint

structure Acceptable (form : CouponForm) : Prop where
  points : 0 ≤ form.points
  named : form.name ≠ ""
  level : 0 ≤ form.level
  dated : form.isIndefinite = true ∨
    ∃ opens closes, form.opens = some opens ∧ form.closes = some closes ∧ opens ≤ closes

/-- The validity that a form tells: none but the flag, or exactly its two days. -/
def AsksFor (form : CouponForm) : Validity → Prop
  | .indefinite => form.isIndefinite = true
  | .window w =>
    form.isIndefinite = false ∧ form.opens = some w.opens ∧ form.closes = some w.closes

def gather (form : CouponForm) : Report CouponComplaint × Option Validity :=
  if form.isIndefinite then (form.fieldReport, some .indefinite)
  else
    match form.opens, form.closes with
    | some opens, some closes =>
      let window := DateWindow.ofDates? opens closes
      (form.fieldReport.check window.isNone .datesInverted, window.map .window)
    | _, _ => (form.fieldReport.push .dateMissing, none)

/-- Reads a form in one pass. The validity is settled after the report was found to be empty; where
there is none it falls back on a given one. -/
def validateOr (fallback : Validity) (form : CouponForm) :
    Except (Report CouponComplaint) NewCoupon :=
  form.gather.1.verdict.map fun () =>
    ⟨form.restaurantId, form.name, form.description, form.points, form.level,
      form.gather.2.getD fallback⟩

variable (form : CouponForm)

theorem dayComplaints_of_dated (h : form.isIndefinite = true ∨
    ∃ opens closes, form.opens = some opens ∧ form.closes = some closes ∧ opens ≤ closes) :
    form.dayComplaints = [] := by
  rcases h with hflag | ⟨opens, closes, hopens, hcloses, hordered⟩
  · simp [dayComplaints, dayChecks, Fails, hflag]
  · have hkept : ¬ closes < opens := Int.not_lt.2 hordered
    simp [dayComplaints, dayChecks, Fails, hopens, hcloses, hkept]

/-- The days of a form tell a validity, or fail one check and no second one. -/
theorem days_cases :
    (∃ validity, form.validity = .ok validity ∧ form.gather = (form.fieldReport, some validity) ∧
        form.AsksFor validity ∧ form.dayComplaints = []) ∨
      ∃ complaint, form.validity = .error complaint ∧
        form.gather = (form.fieldReport.push complaint, none) ∧
        form.dayComplaints = [complaint] := by
  have hdated := form.dayComplaints_of_dated
  obtain ⟨restaurantId, name, description, points, level, opens, closes, isIndefinite⟩ := form
  cases isIndefinite with
  | true => exact Or.inl ⟨.indefinite, rfl, rfl, rfl, hdated (Or.inl rfl)⟩
  | false =>
    -- Each of the days may be missing, and two days may be inverted.
    cases opens with
    | none => exact Or.inr ⟨.dateMissing, rfl, rfl, by simp [dayComplaints, dayChecks, Fails]⟩
    | some opens =>
      cases closes with
      | none => exact Or.inr ⟨.dateMissing, rfl, rfl, by simp [dayComplaints, dayChecks, Fails]⟩
      | some closes =>
        by_cases hordered : opens ≤ closes
        · have hwindow : DateWindow.ofDates? opens closes = some ⟨opens, closes, hordered⟩ :=
            dif_pos hordered
          refine Or.inl ⟨.window ⟨opens, closes, hordered⟩, ?_, ?_, ⟨rfl, rfl, rfl⟩, ?_⟩
          · simp [validity, hwindow]
          · simp [gather, hwindow, Report.check]
          · exact hdated (Or.inr ⟨opens, closes, rfl, rfl, hordered⟩)
        · have hwindow : DateWindow.ofDates? opens closes = none := dif_neg hordered
          have hinverted := DateWindow.ofDates?_eq_none_iff.1 hwindow
          refine Or.inr ⟨.datesInverted, ?_, ?_, ?_⟩
          · simp [validity, hwindow]
          · simp [gather, hwindow, Report.check]
          · simp [dayComplaints, dayChecks, Fails, hinverted]

/-- Nothing is ever fallen back on. -/
theorem validateOr_eq_validate (fallback : Validity) :
    form.validateOr fallback = form.validate := by
  unfold validateOr validate
  rcases form.days_cases with
    ⟨validity, hvalidity, hgather, -⟩ | ⟨complaint, hvalidity, hgather, -⟩
  · rw [hvalidity, hgather]
    rfl
  · rw [hvalidity, hgather, Report.verdict_of_ne_nil (by simp)]
    rfl

theorem entries_fieldReport :
    form.fieldReport.entries = fieldChecks.filter fun complaint => form.Fails complaint := by
  change _ = ([] ++ [negativePoints] ++ [nameMissing] ++ [negativeLevel]).filter _
  exact Report.entries_check_of_filter (Report.entries_check_of_filter
    (Report.entries_check_of_filter rfl decide_eq_true_iff) beq_iff_eq) decide_eq_true_iff

theorem complaints_eq : form.complaints = form.fieldReport.entries ++ form.dayComplaints := by
  rw [complaints, List.filter_append, entries_fieldReport, dayComplaints]

theorem validate_of_complaints (h : form.complaints ≠ []) :
    form.validate = .error ⟨form.complaints⟩ := by
  rw [complaints_eq] at h ⊢
  unfold validate
  rcases form.days_cases with ⟨validity, hvalidity, -, -, hdays⟩ | ⟨complaint, hvalidity, -, hdays⟩
  · rw [hdays, List.append_nil] at h ⊢
    rw [hvalidity, Report.verdict_of_ne_nil h]
    rfl
  · rw [hvalidity, hdays]
    rfl

theorem validate_of_complaints_eq_nil (h : form.complaints = []) :
    ∃ validity, form.AsksFor validity ∧
      form.validate = .ok ⟨form.restaurantId, form.name, form.description, form.points, form.level,
        validity⟩ := by
  rw [complaints_eq, List.append_eq_nil_iff] at h
  obtain ⟨hfields, hnone⟩ := h
  rcases form.days_cases with ⟨validity, hvalidity, -, hasks, -⟩ | ⟨complaint, -, -, hdays⟩
  · refine ⟨validity, hasks, ?_⟩
    rw [validate, hvalidity, (Report.verdict_eq_ok_iff _).2 hfields]
    rfl
  · rw [hdays] at hnone
    cases hnone

theorem dayComplaints_eq_nil_iff : form.dayComplaints = [] ↔ form.isIndefinite = true ∨
    ∃ opens closes, form.opens = some opens ∧ form.closes = some closes ∧ opens ≤ closes := by
  refine ⟨fun h => ?_, form.dayComplaints_of_dated⟩
  rcases form.days_cases with ⟨validity, -, -, hasks, -⟩ | ⟨complaint, -, -, hdays⟩
  · cases validity with
    | indefinite => exact Or.inl hasks
    | window w => exact Or.inr ⟨w.opens, w.closes, hasks.2.1, hasks.2.2, w.opens_le_closes⟩
  · rw [hdays] at h
    cases h

theorem entries_fieldReport_eq_nil_iff :
    form.fieldReport.entries = [] ↔ 0 ≤ form.points ∧ form.name ≠ "" ∧ 0 ≤ form.level := by
  simp [fieldReport, Report.entries_check, Int32.not_lt]

theorem complaints_eq_nil_iff : form.complaints = [] ↔ form.Acceptable := by
  rw [complaints_eq, List.append_eq_nil_iff, entries_fieldReport_eq_nil_iff,
    dayComplaints_eq_nil_iff]
  constructor
  · rintro ⟨⟨hpoints, hname, hlevel⟩, hdated⟩
    exact ⟨hpoints, hname, hlevel, hdated⟩
  · rintro ⟨hpoints, hname, hlevel, hdated⟩
    exact ⟨⟨hpoints, hname, hlevel⟩, hdated⟩

theorem countP_concernsDays_le : form.complaints.countP concernsDays ≤ 1 := by
  have hfields : form.fieldReport.entries.countP concernsDays = 0 := by
    rw [entries_fieldReport, List.countP_eq_zero]
    intro complaint hmem
    exact (by decide : ∀ complaint ∈ fieldChecks, ¬ complaint.concernsDays = true) complaint
      (List.mem_filter.1 hmem).1
  rw [complaints_eq, List.countP_append, hfields, Nat.zero_add]
  rcases form.days_cases with ⟨-, -, -, -, hdays⟩ | ⟨complaint, -, -, hdays⟩
  · rw [hdays]
    exact Nat.zero_le 1
  · rw [hdays]
    exact List.countP_le_length

end CouponForm

namespace Memory

variable {form : CouponForm} (s : Memory)

theorem call_createCoupon (h : form.Acceptable) :
    ∃ validity, form.AsksFor validity ∧ (Operation.createCoupon form).call s =
      let coupon : Coupon := ⟨⟨s.nextId⟩, form.restaurantId, form.name, form.description,
        form.points, form.level, validity, false⟩
      ⟨.createCoupon form, s, .ok (.coupon coupon),
        { s with created := s.created + 1, coupons := s.coupons.put coupon }⟩ := by
  obtain ⟨validity, hasks, hvalidate⟩ :=
    form.validate_of_complaints_eq_nil (form.complaints_eq_nil_iff.2 h)
  refine ⟨validity, hasks, ?_⟩
  rw [Operation.call, Operation.script, Coupons.create, hvalidate]
  rfl

theorem call_createCoupon_refused (h : form.complaints ≠ []) :
    (Operation.createCoupon form).call s =
      ⟨.createCoupon form, s, .error (.coupon (.invalid ⟨form.complaints⟩)), s⟩ := by
  rw [Operation.call, Operation.script, Coupons.create, form.validate_of_complaints h]
  rfl

end Memory

namespace World

/-- Whatever turns were taken, faults included: a form in order is stored as a coupon as it stands,
with the validity that it tells, under an identifier that was never given out. Every other form is
answered the checks that it fails, of the days at most one, and changes nothing. Whatever validity a
reader of forms falls back on, it comes to the same. -/
theorem coupon_creation_decided (turns : List Turn)
    (hfits : (run turns).store.created < 2147483647) (form : CouponForm) :
    let w := run turns
    let c := (Operation.createCoupon form).call w.store
    (form.Acceptable → ∃ validity, form.AsksFor validity ∧
      let coupon : Coupon := ⟨⟨w.store.nextId⟩, form.restaurantId, form.name, form.description,
        form.points, form.level, validity, false⟩
      w.Unused coupon.id.value ∧ c.answer = .ok (.coupon coupon) ∧
        c.after = { w.store with
          created := w.store.created + 1, coupons := w.store.coupons.put coupon }) ∧
      (¬ form.Acceptable → ∃ e : CouponError, c.answer = .error (.coupon e) ∧
        e = .invalid ⟨form.complaints⟩ ∧
        e.failure = .validation ⟨form.complaints.map CouponComplaint.message⟩ ∧
        form.complaints ≠ [] ∧ form.complaints.countP CouponComplaint.concernsDays ≤ 1 ∧
        c.after = w.store) ∧
      ∀ fallback, form.validateOr fallback = form.validate := by
  intro w c
  refine ⟨fun hform => ?_, fun hform => ?_, form.validateOr_eq_validate⟩
  · obtain ⟨validity, hasks, hcall⟩ := w.store.call_createCoupon hform
    exact ⟨validity, hasks, unused_nextId turns hfits, congrArg Call.answer hcall,
      congrArg Call.after hcall⟩
  · have hfails := mt form.complaints_eq_nil_iff.1 hform
    have hcall := w.store.call_createCoupon_refused hfails
    exact ⟨_, congrArg Call.answer hcall, rfl, rfl, hfails, form.countP_concernsDays_le,
      congrArg Call.after hcall⟩

def firstOffer : List Turn :=
  [.start (.createRestaurant ⟨"Corner", "1 Main Street"⟩), .serve 0,
    .start (.createCoupon ⟨⟨1⟩, "Tea", "One cup", 6, 1, none, none, true⟩), .serve 1]

theorem firstOffer_invertedDays :
    let later : Date := ⟨2020, 6, 30, by decide⟩
    let earlier : Date := ⟨2020, 5, 1, by decide⟩
    let flagged : CouponForm := ⟨⟨1⟩, "Forever", "One cup", 5, 0, some later, some earlier, true⟩
    let flawed : CouponForm := ⟨⟨1⟩, "", "One cup", -1, -3, some later, some earlier, false⟩
    let s := (run firstOffer).store
    ((Operation.createCoupon flagged).call s).answer =
        .ok (.coupon ⟨⟨3⟩, ⟨1⟩, "Forever", "One cup", 5, 0, .indefinite, false⟩) ∧
      ((Operation.createCoupon flawed).call s).answer = .error (.coupon (.invalid
        ⟨[.negativePoints, .nameMissing, .negativeLevel, .datesInverted]⟩)) := by
  intro later earlier flagged flawed s
  have hfits : s.created < 2147483647 := by decide
  obtain ⟨hstored, -⟩ := coupon_creation_decided firstOffer hfits flagged
  obtain ⟨validity, hasks, -, hanswer, -⟩ := hstored
    ⟨by decide, by decide, by decide, Or.inl rfl⟩
  obtain ⟨-, hrefused, -⟩ := coupon_creation_decided firstOffer hfits flawed
  obtain ⟨e, hanswer', rfl, -⟩ := hrefused fun hform => absurd hform.points (by decide)
  refine ⟨?_, hanswer'.trans (by decide)⟩
  cases validity with
  | indefinite => exact hanswer
  | window w => cases hasks.1

end World

end Loyalty
