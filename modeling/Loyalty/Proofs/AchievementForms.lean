import Loyalty.Proofs.Allotments

/-!
# Which achievement forms are accepted

An achievement is created from a form with a requirement, or from one with a requirement in compact
form. Both ways come to the same where the compact form can be read. Where it cannot, its fault is
answered behind the checks that the other fields fail, and these are the same whatever requirement
stands in: one that passes its own checks hides them and nothing else.
-/

namespace Loyalty

namespace AchievementComplaint

def fieldChecks : List AchievementComplaint := [.nameMissing, .negativeExperience, .negativePoints]

def requirementChecks : List AchievementComplaint := [.targetNotPositive, .itemMissing]

def concernsFields (complaint : AchievementComplaint) : Bool := complaint ∈ fieldChecks

end AchievementComplaint

theorem Goal.lacksItem_iff {goal : Goal} :
    goal.lacksItem = true ↔ ∃ quantity, goal = .purchase "" quantity := by
  cases goal with
  | purchase item quantity => simp [lacksItem]
  | visit times => simp [lacksItem]

namespace NewAchievement

open AchievementComplaint

/-- The input has the flaw. A requirement that is there was read without a fault. -/
def Fails (input : NewAchievement) : AchievementComplaint → Prop
  | .nameMissing => input.name = ""
  | .negativeExperience => input.experience < 0
  | .negativePoints => input.points < 0
  | .targetNotPositive => input.requirement.target < 1
  | .itemMissing => ∃ quantity, input.requirement.goal = .purchase "" quantity
  | .unreadable _ => False

instance (input : NewAchievement) : DecidablePred input.Fails := fun complaint =>
  match complaint with
  | .nameMissing => inferInstanceAs (Decidable (input.name = ""))
  | .negativeExperience => inferInstanceAs (Decidable (input.experience < 0))
  | .negativePoints => inferInstanceAs (Decidable (input.points < 0))
  | .targetNotPositive => inferInstanceAs (Decidable (input.requirement.target < 1))
  | .itemMissing => decidable_of_iff _ Goal.lacksItem_iff
  | .unreadable _ => inferInstanceAs (Decidable False)

def complaints (input : NewAchievement) : List AchievementComplaint :=
  (fieldChecks ++ requirementChecks).filter fun complaint => input.Fails complaint

variable (input : NewAchievement)

theorem entries_fieldReport :
    (achievementFieldReport input.name input.experience input.points).entries =
      fieldChecks.filter fun complaint => input.Fails complaint := by
  change _ = ([] ++ [nameMissing] ++ [negativeExperience] ++ [negativePoints]).filter _
  exact Report.entries_check_of_filter (Report.entries_check_of_filter
    (Report.entries_check_of_filter rfl beq_iff_eq) decide_eq_true_iff) decide_eq_true_iff

theorem entries_report : input.report.entries = input.complaints := by
  change _ = (fieldChecks ++ [targetNotPositive] ++ [itemMissing]).filter _
  exact Report.entries_check_of_filter (Report.entries_check_of_filter input.entries_fieldReport
    decide_eq_true_iff) Goal.lacksItem_iff

theorem verdict_report (h : input.complaints ≠ []) :
    input.report.verdict = .error ⟨input.complaints⟩ := by
  rw [← entries_report] at h ⊢
  exact Report.verdict_of_ne_nil h

theorem complaints_eq_nil_iff (id : AchievementId) :
    input.complaints = [] ↔ (input.withId id).WellFormed := by
  constructor
  · intro h
    rw [← entries_report, ← Report.verdict_eq_ok_iff] at h
    exact NewAchievement.wellFormed h id
  · intro h
    rw [complaints, List.filter_eq_nil_iff]
    intro complaint _
    rw [decide_eq_true_iff]
    cases complaint with
    | nameMissing => exact h.named
    | negativeExperience => exact Int32.not_lt.2 h.experience
    | negativePoints => exact Int32.not_lt.2 h.points
    | targetNotPositive => exact Int32.not_lt.2 h.target
    | itemMissing =>
      rintro ⟨quantity, hgoal⟩
      exact h.item "" quantity hgoal rfl
    | unreadable fault => exact False.elim

theorem filter_concernsFields :
    input.complaints.filter concernsFields =
      (achievementFieldReport input.name input.experience input.points).entries := by
  rw [complaints, List.filter_comm, entries_fieldReport]
  rfl

end NewAchievement

namespace CompactAchievement

open AchievementComplaint

def withRequirement (form : CompactAchievement) (requirement : Requirement) : NewAchievement :=
  ⟨form.restaurantId, form.name, form.experience, form.points, requirement⟩

def standIn : Requirement := ⟨.visit 1, .indefinite⟩

/-- Reads a compact form; where that fails, the other fields are checked together with a requirement
that stands in. -/
def expandOver (requirement : Requirement) (form : CompactAchievement) :
    Except (Report AchievementComplaint) NewAchievement :=
  match Requirement.ofCompact form.typeCode form.value with
  | .ok requirement => .ok (form.withRequirement requirement)
  | .error fault =>
    match (form.withRequirement requirement).report.verdict with
    | .ok () => .error (Report.empty.push (.unreadable fault))
    | .error report => .error (report.push (.unreadable fault))

variable (form : CompactAchievement)

/-- A requirement that passes its own checks hides them and nothing else. -/
theorem report_withRequirement {requirement : Requirement} (htarget : 1 ≤ requirement.target)
    (hitem : requirement.goal.lacksItem = false) :
    (form.withRequirement requirement).report =
      achievementFieldReport form.name form.experience form.points := by
  have hpositive : ¬ requirement.target < 1 := Int32.not_lt.2 htarget
  simp [NewAchievement.report, withRequirement, Report.check, hpositive, hitem]

theorem expandOver_eq_expand {requirement : Requirement} (htarget : 1 ≤ requirement.target)
    (hitem : requirement.goal.lacksItem = false) : form.expandOver requirement = form.expand := by
  unfold expandOver expand
  cases Requirement.ofCompact form.typeCode form.value with
  | ok requirement => rfl
  | error fault =>
    rw [form.report_withRequirement htarget hitem]
    -- A verdict is the report itself, or there was nothing to report.
    generalize achievementFieldReport form.name form.experience form.points = report
    obtain ⟨entries⟩ := report
    cases entries <;> rfl

theorem expand_of_readable {requirement : Requirement}
    (h : Requirement.ofCompact form.typeCode form.value = .ok requirement) :
    form.expand = .ok (form.withRequirement requirement) := by
  rw [expand, h]
  rfl

/-- A fault stands behind the complaints about the other fields, whatever requirement these come
with. -/
theorem expand_of_fault {fault : CompactFault}
    (h : Requirement.ofCompact form.typeCode form.value = .error fault)
    (requirement : Requirement) :
    form.expand = .error
      ⟨(form.withRequirement requirement).complaints.filter concernsFields ++
        [.unreadable fault]⟩ := by
  rw [expand, h, NewAchievement.filter_concernsFields]
  rfl

end CompactAchievement

theorem AchievementError.failure_fault (others : List AchievementComplaint) (fault : CompactFault) :
    (AchievementError.invalid ⟨others ++ [.unreadable fault]⟩).failure =
      .validation ⟨others.map AchievementComplaint.message ++ [fault.message]⟩ := by
  simp only [failure, Report.map, List.map_append]
  rfl

namespace Memory

variable (s : Memory)

theorem call_createAchievement {input : NewAchievement}
    (h : (input.withId ⟨s.nextId⟩).WellFormed) :
    (Operation.createAchievement input).call s =
      let achievement := input.withId ⟨s.nextId⟩
      ⟨.createAchievement input, s, .ok (.achievement achievement),
        { s with created := s.created + 1, achievements := s.achievements.put achievement }⟩ := by
  have hnone := (input.complaints_eq_nil_iff _).2 h
  rw [← NewAchievement.entries_report, ← Report.verdict_eq_ok_iff] at hnone
  rw [Operation.call, Operation.script, Achievements.create, hnone]
  rfl

theorem call_createAchievement_refused {input : NewAchievement} (h : input.complaints ≠ []) :
    (Operation.createAchievement input).call s =
      ⟨.createAchievement input, s, .error (.achievement (.invalid ⟨input.complaints⟩)), s⟩ := by
  rw [Operation.call, Operation.script, Achievements.create, input.verdict_report h]
  rfl

theorem script_createCompactAchievement {form : CompactAchievement} {requirement : Requirement}
    (h : Requirement.ofCompact form.typeCode form.value = .ok requirement) :
    (Operation.createCompactAchievement form).script =
      (Operation.createAchievement (form.withRequirement requirement)).script := by
  rw [Operation.script, Operation.script, Achievements.createCompact, form.expand_of_readable h]

theorem call_createCompactAchievement_refused {form : CompactAchievement} {fault : CompactFault}
    (h : Requirement.ofCompact form.typeCode form.value = .error fault)
    (requirement : Requirement) :
    (Operation.createCompactAchievement form).call s =
      ⟨.createCompactAchievement form, s, .error (.achievement (.invalid
        ⟨(form.withRequirement requirement).complaints.filter
          AchievementComplaint.concernsFields ++ [.unreadable fault]⟩)), s⟩ := by
  rw [Operation.call, Operation.script, Achievements.createCompact,
    form.expand_of_fault h requirement]
  rfl

end Memory

namespace World

open Memory AchievementComplaint

/-- Whatever turns were taken, faults included. An achievement of which the compact form can be read
comes to the same as one that is created with what was read. Where it cannot be read, nothing is
stored, and the answer is what the other fields are refused for, in the order of a creation with any
requirement at all, and then the fault. A creation stores an input that is well-formed as it stands,
under an identifier that was never given out, and answers every other one the checks that it fails
and changes nothing. -/
theorem achievement_creations_agree (turns : List Turn)
    (hfits : (run turns).store.created < 2147483647) :
    let w := run turns
    let compact (form : CompactAchievement) :=
      (Operation.createCompactAchievement form).call w.store
    let direct (input : NewAchievement) := (Operation.createAchievement input).call w.store
    (∀ form requirement, Requirement.ofCompact form.typeCode form.value = .ok requirement →
      (compact form).answer = (direct (form.withRequirement requirement)).answer ∧
        (compact form).after = (direct (form.withRequirement requirement)).after) ∧
      (∀ form fault, Requirement.ofCompact form.typeCode form.value = .error fault →
        (compact form).after = w.store ∧
          ∀ requirement,
            let others := (form.withRequirement requirement).complaints.filter concernsFields
            ∃ e : AchievementError, (compact form).answer = .error (.achievement e) ∧
              e = .invalid ⟨others ++ [.unreadable fault]⟩ ∧
              e.failure = .validation ⟨others.map message ++ [fault.message]⟩) ∧
      (∀ form : CompactAchievement, form.expandOver CompactAchievement.standIn = form.expand) ∧
      ∀ input,
        let offered := input.withId ⟨w.store.nextId⟩
        (offered.WellFormed → w.Unused offered.id.value ∧
          (direct input).answer = .ok (.achievement offered) ∧
          (direct input).after = { w.store with
            created := w.store.created + 1, achievements := w.store.achievements.put offered }) ∧
        (¬ offered.WellFormed → ∃ e : AchievementError,
          (direct input).answer = .error (.achievement e) ∧ e = .invalid ⟨input.complaints⟩ ∧
          e.failure = .validation ⟨input.complaints.map message⟩ ∧ input.complaints ≠ [] ∧
          (direct input).after = w.store) := by
  intro w compact direct
  refine ⟨?_, ?_, fun form => form.expandOver_eq_expand (by decide) rfl, ?_⟩
  · intro form requirement hread
    have hscript := script_createCompactAchievement hread
    exact ⟨congrArg (fun p => (p.run handle w.store).1) hscript,
      congrArg (fun p => (p.run handle w.store).2) hscript⟩
  · intro form fault hfault
    have hcall := w.store.call_createCompactAchievement_refused hfault
    refine ⟨congrArg Call.after (hcall CompactAchievement.standIn), fun requirement => ?_⟩
    exact ⟨_, congrArg Call.answer (hcall requirement), rfl, AchievementError.failure_fault _ fault⟩
  · intro input offered
    refine ⟨fun hformed => ?_, fun hflawed => ?_⟩
    · have hcall := w.store.call_createAchievement hformed
      exact ⟨unused_nextId turns hfits, congrArg Call.answer hcall, congrArg Call.after hcall⟩
    · have hfails := mt (input.complaints_eq_nil_iff _).1 hflawed
      have hcall := w.store.call_createAchievement_refused hfails
      exact ⟨_, congrArg Call.answer hcall, rfl, rfl, hfails, congrArg Call.after hcall⟩

def withdrawnOffer : List Turn :=
  [.start (.createAchievement ⟨⟨1⟩, "Welcome", 5, 10, ⟨.visit 3, .indefinite⟩⟩), .serve 0,
    .start (.deleteAchievement ⟨1⟩), .serve 1]

theorem withdrawnOffer_compactForms :
    let unknown : CompactAchievement := ⟨⟨1⟩, "", 5, 5, 9, "Ramen;3;True;;"⟩
    let known : CompactAchievement := ⟨⟨1⟩, "Lunch", 5, 5, 0, " Ramen ;3;True;;"⟩
    let ramen : Requirement := ⟨.purchase "Ramen" 3, .indefinite⟩
    let s := (run withdrawnOffer).store
    ((Operation.createCompactAchievement unknown).call s).answer =
        .error (.achievement (.invalid ⟨[.nameMissing, .unreadable (.unknownType 9)]⟩)) ∧
      ((Operation.createCompactAchievement known).call s).answer =
        .ok (.achievement ⟨⟨2⟩, ⟨1⟩, "Lunch", 5, 5, ramen⟩) := by
  intro unknown known ramen s
  have hfits : s.created < 2147483647 := by decide
  obtain ⟨hread, hfault, -, hdirect⟩ := achievement_creations_agree withdrawnOffer hfits
  obtain ⟨-, hanswer⟩ := hfault unknown (.unknownType 9) (by decide)
  obtain ⟨e, hanswer, rfl, -⟩ := hanswer CompactAchievement.standIn
  obtain ⟨hsame, -⟩ := hread known ramen (by decide)
  refine ⟨hanswer.trans (by decide), hsame.trans ?_⟩
  have hformed := ((known.withRequirement ramen).complaints_eq_nil_iff ⟨s.nextId⟩).1 (by decide)
  exact ((hdirect _).1 hformed).2.1

end World

end Loyalty
