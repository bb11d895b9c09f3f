import Loyalty.Proofs.Refusals
import Loyalty.Store.Relational

/-!
# Snapshots have no power

Whoever counts an action or asks for a reward hands in a row that was read before, or that was made
up. Its counters are never trusted: an action is counted on the row that is stored for the pair, and
a reward is paid for a stored row that is full. All that a row which is handed in can do is to be
refused at once, since it is not full itself.
-/

namespace Loyalty

namespace Memory

/-- What a completion is answered and what becomes of the store, for a row that is handed in. The
cases stand in the order of the checks. -/
inductive Completes (s : Memory) (row : Progress) : Except Refusal Reply → Memory → Prop
  | unfinished (hbelow : row.progress < row.total) :
      Completes s row (.error (.achievement (.unfinished row.achievementId row.userId))) s
  | unknown (hfull : row.total ≤ row.progress)
      (habsent : s.achievements.find? row.achievementId = none) :
      Completes s row (.error (.achievement (.notFound row.achievementId))) s
  | late {a : Achievement} (hfull : row.total ≤ row.progress)
      (hoffered : s.achievements.find? row.achievementId = some a)
      (hopen : ∀ stored, s.progress.find? (row.userId, row.achievementId) = some stored →
        stored.progress ≠ stored.total) :
      Completes s row (.error (.achievement (.alreadyCompleted row.achievementId row.userId))) s
  | overflowing {a : Achievement} {stored : Progress} (hfull : row.total ≤ row.progress)
      (hoffered : s.achievements.find? row.achievementId = some a)
      (hstored : s.progress.find? (row.userId, row.achievementId) = some stored)
      (hfilled : stored.progress = stored.total)
      (hcredit : credited? (s.balanceOf row.userId a.restaurantId) a.points a.experience = none) :
      Completes s row (.error (.achievement (.store .balanceOutOfRange))) s
  | paid {a : Achievement} {stored : Progress} {b : Balance} (hfull : row.total ≤ row.progress)
      (hoffered : s.achievements.find? row.achievementId = some a)
      (hstored : s.progress.find? (row.userId, row.achievementId) = some stored)
      (hfilled : stored.progress = stored.total)
      (hcredit : credited? (s.balanceOf row.userId a.restaurantId) a.points a.experience = some b) :
      Completes s row (.ok (.reward a.reward)) (s.paid row.userId row.achievementId b)

/-- Of a row that is handed in, the store reads nothing but whose row it is. -/
theorem complete_congr (s : Memory) {row row' : Progress} (h : Keyed.key row = Keyed.key row')
    (reward : Reward) : s.complete row reward = s.complete row' reward := by
  obtain ⟨huser, hid⟩ := Prod.mk.inj h
  rw [complete, complete, huser, hid]

end Memory

theorem Relational.complete_congr (t : Relational) {row row' : Progress}
    (h : Keyed.key row = Keyed.key row') (reward : Reward) :
    t.complete row reward = t.complete row' reward := by
  obtain ⟨huser, hid⟩ := Prod.mk.inj h
  rw [complete, complete, huser, hid]

open Memory

namespace Achievements

variable {s : Memory} {row : Progress}

theorem run_complete_unfinished (hbelow : row.progress < row.total) (s : Memory) :
    (complete row).run handle s = (.error (.unfinished row.achievementId row.userId), s) := by
  have hcomplete : ¬ row.isComplete = true := by
    simpa [Progress.isComplete] using Int32.not_le.2 hbelow
  rw [complete, Script.run_require, if_neg hcomplete]

theorem run_complete_unknown (hcomplete : row.isComplete = true)
    (habsent : s.achievements.find? row.achievementId = none) :
    (complete row).run handle s = (.error (.notFound row.achievementId), s) := by
  rw [complete, Script.run_require, if_pos hcomplete, reward, Script.bind_eq, Script.bind_eq,
    Script.run_bind, Script.run_bind, run_get_absent habsent]

theorem run_complete_congr {row' : Progress} (h : Keyed.key row = Keyed.key row')
    (hcomplete : row.isComplete = true) (hcomplete' : row'.isComplete = true) (s : Memory) :
    (complete row).run handle s = (complete row').run handle s := by
  obtain ⟨huser, hid⟩ := Prod.mk.inj h
  cases hoffered : s.achievements.find? row.achievementId with
  | none =>
    have hoffered' : s.achievements.find? row'.achievementId = none := by rw [← hid, hoffered]
    rw [run_complete_unknown hcomplete hoffered, run_complete_unknown hcomplete' hoffered', hid]
  | some a =>
    have hoffered' : s.achievements.find? row'.achievementId = some a := by rw [← hid, hoffered]
    have hstore : handle (.complete row a.reward) s = handle (.complete row' a.reward) s :=
      s.complete_congr h a.reward
    rw [run_complete hoffered hcomplete, run_complete hoffered' hcomplete', hstore, huser, hid]
    rcases handle (.complete row' a.reward) s with ⟨_ | _ | _, _⟩ <;> rfl

end Achievements

namespace Memory

theorem completes_call (s : Memory) (row : Progress) :
    s.Completes row ((Operation.complete row).call s).answer
      ((Operation.complete row).call s).after := by
  dsimp only [Operation.call, Operation.script]
  rw [Script.run_relabel]
  by_cases hbelow : row.progress < row.total
  · rw [Achievements.run_complete_unfinished hbelow]
    exact .unfinished hbelow
  · have hfull : row.total ≤ row.progress := Int32.not_lt.1 hbelow
    have hcomplete : row.isComplete = true := decide_eq_true hfull
    cases hoffered : s.achievements.find? row.achievementId with
    | none =>
      rw [Achievements.run_complete_unknown hcomplete hoffered]
      exact .unknown hfull hoffered
    | some a =>
      rw [Achievements.run_complete hoffered hcomplete]
      by_cases hfilled : ∃ stored, s.progress.find? (row.userId, row.achievementId) = some stored ∧
        stored.progress = stored.total
      · obtain ⟨stored, hstored, hfilled⟩ := hfilled
        rw [handle_complete_of_full a.reward hstored hfilled]
        cases hcredit : credited? (s.balanceOf row.userId a.restaurantId) a.points a.experience with
        | none =>
          simp only [Achievement.reward, hcredit]
          exact .overflowing hfull hoffered hstored hfilled hcredit
        | some b =>
          simp only [Achievement.reward, hcredit]
          exact .paid hfull hoffered hstored hfilled hcredit
      · have hopen : ∀ stored, s.progress.find? (row.userId, row.achievementId) = some stored →
            stored.progress ≠ stored.total := by
          intro stored hstored hfull'
          exact hfilled ⟨stored, hstored, hfull'⟩
        rw [handle_complete_of_unfilled a.reward hopen]
        exact .late hfull hoffered hopen

namespace Completes

variable {s s' : Memory} {row : Progress} {answer : Except Refusal Reply}

theorem unfinished_iff (h : s.Completes row answer s') {id : AchievementId} {userId : UserId} :
    answer = .error (.achievement (.unfinished id userId)) ↔
      row.progress < row.total ∧ id = row.achievementId ∧ userId = row.userId := by
  cases h with
  | unfinished hbelow => simp [hbelow, eq_comm]
  | unknown hfull | late hfull | overflowing hfull | paid hfull => simp [Int32.not_lt.2 hfull]

theorem unchanged {e : Refusal} (h : s.Completes row (.error e) s') : s' = s := by
  cases h <;> rfl

end Completes

/-- In every store: all rows that are handed in for one pair have an action counted alike, and those
that are full are completed alike, since neither store reads their counters. A completion is
refused as unfinished just for a row that is handed in below its total. It pays for a stored row
that is full only, and pays the reward of the achievement; where it does not pay, nothing
changes. -/
theorem snapshots_powerless (s : Memory) (row : Progress) :
    (∀ row' : Progress, row'.userId = row.userId → row'.achievementId = row.achievementId →
      ((Operation.advance row').call s).answer = ((Operation.advance row).call s).answer ∧
      ((Operation.advance row').call s).after = ((Operation.advance row).call s).after ∧
      (row.total ≤ row.progress → row'.total ≤ row'.progress →
        ((Operation.complete row').call s).answer = ((Operation.complete row).call s).answer ∧
        ((Operation.complete row').call s).after = ((Operation.complete row).call s).after) ∧
      ∀ reward, s.complete row' reward = s.complete row reward ∧
        ∀ t : Relational, t.complete row' reward = t.complete row reward) ∧
    let c := (Operation.complete row).call s
    (∀ reply, c.answer = .ok reply →
      ∃ stored a b, s.progress.find? (row.userId, row.achievementId) = some stored ∧
        stored.progress = stored.total ∧ s.achievements.find? row.achievementId = some a ∧
        credited? (s.balanceOf row.userId a.restaurantId) a.points a.experience = some b ∧
        reply = .reward a.reward ∧ c.after = s.paid row.userId row.achievementId b) ∧
    (∀ id userId, c.answer = .error (.achievement (.unfinished id userId)) ↔
      row.progress < row.total ∧ id = row.achievementId ∧ userId = row.userId) ∧
    ∀ e, c.answer = .error e → c.after = s := by
  have hdecided := completes_call s row
  refine ⟨fun row' huser hid => ?_, fun reply hreply => ?_, fun id userId => ?_, fun e he => ?_⟩
  · have hkey : Keyed.key row' = Keyed.key row := Prod.ext huser hid
    have hadvance := Achievements.advance_congr hkey
    refine ⟨?_, ?_, fun hfull hfull' => ?_, fun reward => ?_⟩
    · simp only [Operation.call, Operation.script, hadvance]
    · simp only [Operation.call, Operation.script, hadvance]
    · have hsame := Achievements.run_complete_congr hkey (decide_eq_true hfull')
        (decide_eq_true hfull) s
      simp only [Operation.call, Operation.script, Script.run_relabel, hsame, and_self]
    · exact ⟨s.complete_congr hkey reward, fun t => t.complete_congr hkey reward⟩
  · rw [hreply] at hdecided
    generalize hafter : ((Operation.complete row).call s).after = s' at hdecided ⊢
    cases hdecided with
    | paid _ hoffered hstored hfilled hcredit =>
      exact ⟨_, _, _, hstored, hfilled, hoffered, hcredit, rfl, rfl⟩
  · exact hdecided.unfinished_iff
  · rw [he] at hdecided
    exact hdecided.unchanged

/-- One of two visits is made. -/
def halfway : Memory :=
  serve [.createAchievement ⟨⟨1⟩, "Regular", 5, 10, ⟨.visit 2, .indefinite⟩⟩,
    .record .newYear ⟨7⟩ ⟨1⟩] empty

/-- The only visit is made. Its reward did not fit until some points were spent. -/
def withheld : Memory :=
  serve [.createAchievement ⟨⟨1⟩, "Welcome", 5, 10, ⟨.visit 1, .indefinite⟩⟩,
    .credit ⟨7⟩ ⟨1⟩ 2147483647 0, .record .newYear ⟨7⟩ ⟨1⟩, .debit ⟨7⟩ ⟨1⟩ 100] empty

/-- Full rows that were made up. The one is not paid, since the stored row is open, and has an
action counted like that. The other is paid what its achievement offers, since the stored row is
full. -/
theorem madeUp_rows :
    (((Operation.complete ⟨⟨7⟩, ⟨1⟩, 2, 2⟩).call halfway).answer =
        .error (.achievement (.alreadyCompleted ⟨1⟩ ⟨7⟩)) ∧
      ((Operation.complete ⟨⟨7⟩, ⟨1⟩, 2, 2⟩).call halfway).after = halfway ∧
      ((Operation.advance ⟨⟨7⟩, ⟨1⟩, 2, 2⟩).call halfway).answer =
        ((Operation.advance ⟨⟨7⟩, ⟨1⟩, 1, 2⟩).call halfway).answer) ∧
    ((Operation.complete ⟨⟨7⟩, ⟨1⟩, 9, 2⟩).call withheld).answer =
        .ok (.reward ⟨⟨1⟩, 10, 5⟩) ∧
      ((Operation.complete ⟨⟨7⟩, ⟨1⟩, 9, 2⟩).call withheld).after =
        withheld.paid ⟨7⟩ ⟨1⟩ ⟨⟨7⟩, ⟨1⟩, 2147483557, 5⟩ := by
  have hrefused : ((Operation.complete ⟨⟨7⟩, ⟨1⟩, 2, 2⟩).call halfway).answer =
      .error (.achievement (.alreadyCompleted ⟨1⟩ ⟨7⟩)) := by
    decide
  have hpaid : ((Operation.complete ⟨⟨7⟩, ⟨1⟩, 9, 2⟩).call withheld).answer =
      .ok (.reward ⟨⟨1⟩, 10, 5⟩) := by
    decide
  have hoffer : withheld.achievements.find? ⟨1⟩ =
      some ⟨⟨1⟩, ⟨1⟩, "Welcome", 5, 10, ⟨.visit 1, .indefinite⟩⟩ := by
    decide
  have hroom : credited? (withheld.balanceOf ⟨7⟩ ⟨1⟩) 10 5 =
      some ⟨⟨7⟩, ⟨1⟩, 2147483557, 5⟩ := by
    decide
  obtain ⟨hsame, -, -, hunpaid⟩ := snapshots_powerless halfway ⟨⟨7⟩, ⟨1⟩, 2, 2⟩
  refine ⟨⟨hrefused, hunpaid _ hrefused, (hsame ⟨⟨7⟩, ⟨1⟩, 1, 2⟩ rfl rfl).1.symm⟩, hpaid, ?_⟩
  obtain ⟨-, hpays, -⟩ := snapshots_powerless withheld ⟨⟨7⟩, ⟨1⟩, 9, 2⟩
  obtain ⟨stored, a, b, -, -, ha, hb, -, hafter⟩ := hpays _ hpaid
  cases hoffer.symm.trans ha
  cases hroom.symm.trans hb
  exact hafter

end Memory

end Loyalty
