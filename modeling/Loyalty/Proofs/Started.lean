import Loyalty.Proofs.Sequence
import Mathlib.Data.List.Basic

/-!
# Started and not started

What a user has started is told by three reads: the list of the rows of the user, the lookup of the
row of one achievement, and the choice of those achievements that the user has not started. In every
store they agree: whatever achievements are asked about, those that are chosen are those of which no
row is found, and each other one has the row that is found in the list, and no second one.
-/

namespace Loyalty

open Memory

namespace Table

variable {ρ κ : Type} [Ranked κ] [Keyed ρ κ]

theorem inOrder_toList (row : Option ρ) : InOrder row.toList := by
  cases row with
  | none => exact List.Pairwise.nil
  | some r => exact List.pairwise_singleton _ r

theorem filter_key [DecidableEq κ] (t : Table ρ) (k : κ) :
    (t.rows.filter fun r => Keyed.key r = k) = (t.find? k).toList := by
  apply eq_of_mem_iff (t.ordered.filter _) (inOrder_toList _)
  intro r
  rw [List.mem_filter, decide_eq_true_iff, Option.mem_toList, find?_eq_some_iff]

end Table

namespace Memory

variable (s : Memory) (userId : UserId)

theorem userId_of_mem_listProgress {row : Progress} (h : row ∈ s.listProgress userId) :
    row.userId = userId := of_decide_eq_true (List.mem_filter.1 h).2

theorem pairwise_listProgress : (s.listProgress userId).Pairwise fun earlier later =>
    earlier.achievementId.value < later.achievementId.value := by
  refine (s.progress.ordered.filter _).imp_of_mem fun hearlier hlater hplace => ?_
  have hearlier := s.userId_of_mem_listProgress userId hearlier
  have hlater := s.userId_of_mem_listProgress userId hlater
  change Amount.pairRank _ _ < Amount.pairRank _ _ at hplace
  simp only [Keyed.key, hearlier, hlater, Amount.pairRank] at hplace
  rw [Int32.lt_iff_toInt_lt]
  omega

theorem filter_listProgress (id : AchievementId) :
    ((s.listProgress userId).filter fun row => row.achievementId = id) =
      (s.progress.find? (userId, id)).toList := by
  rw [← Table.filter_key, listProgress, List.filter_filter]
  apply List.filter_congr
  intro row _
  simp [Keyed.key, and_comm]

theorem answer_findProgress (id : AchievementId) :
    ((Operation.findProgress id userId).call s).answer =
      match s.progress.find? (userId, id) with
      | none => .error (.achievement (.progressNotFound id userId))
      | some row => .ok (.row row) := by
  have hanswer : handle (.findProgress id userId) s =
      (.ok (s.progress.find? (userId, id)), s) := rfl
  rw [Operation.call, Operation.script, Script.run_relabel, Achievements.findProgress,
    Script.run_ask_bind hanswer]
  cases s.progress.find? (userId, id) <;> rfl

theorem progressNotFound_iff (id : AchievementId) :
    ((Operation.findProgress id userId).call s).answer =
        .error (.achievement (.progressNotFound id userId)) ↔
      s.progress.find? (userId, id) = none := by
  rw [answer_findProgress]
  cases s.progress.find? (userId, id) <;> simp

/-- An achievement is chosen as not started where no row of it is found. -/
theorem lacks_listProgress (id : AchievementId) :
    (!(s.listProgress userId).any fun row => row.achievementId = id) =
      decide (((Operation.findProgress id userId).call s).answer =
        .error (.achievement (.progressNotFound id userId))) := by
  rw [Bool.eq_iff_iff, Bool.not_eq_true', List.any_eq_false, ← List.filter_eq_nil_iff,
    filter_listProgress, Option.toList_eq_nil_iff, decide_eq_true_iff, progressNotFound_iff]

/-- In every store, for every user and every list of achievements, repeated or unknown ones
included. The achievements that are chosen as not started are those, as often and in the order in
which they were asked about, of which no row is found, each with no progress out of its target. The
rows of the user are listed by achievement, one behind the other. Of every achievement there is no
row in the list, and none is found, or there is one row in the list, and it is the row that is
found. -/
theorem progress_partitions (achievements : List Achievement) :
    let found (a : Achievement) := ((Operation.findProgress a.id userId).call s).answer
    let notFound (a : Achievement) : Except Refusal Reply :=
      .error (.achievement (.progressNotFound a.id userId))
    ((Operation.listUnstarted achievements userId).call s).answer =
        .ok (.shown ((achievements.filter fun a => found a = notFound a).map fun a =>
          ⟨a, 0, a.target⟩)) ∧
      ∃ rows, ((Operation.listProgress userId).call s).answer = .ok (.rows rows) ∧
        (∀ row ∈ rows, row.userId = userId) ∧
        (rows.Pairwise fun earlier later =>
          earlier.achievementId.value < later.achievementId.value) ∧
        ∀ a : Achievement,
          (rows.filter fun row => row.achievementId = a.id) = [] ∧ found a = notFound a ∨
            ∃ row, (rows.filter fun row => row.achievementId = a.id) = [row] ∧
              found a = .ok (.row row) := by
  refine ⟨?_, s.listProgress userId, rfl, fun row => s.userId_of_mem_listProgress userId,
    s.pairwise_listProgress userId, fun a => ?_⟩
  · have hchosen : ((Operation.listUnstarted achievements userId).call s).answer =
        .ok (.shown (Achievement.listUnstarted achievements (s.listProgress userId))) := rfl
    simp only [hchosen, Achievement.listUnstarted, lacks_listProgress]
    rfl
  · simp only [filter_listProgress, answer_findProgress]
    cases s.progress.find? (userId, a.id) with
    | none => exact Or.inl ⟨rfl, rfl⟩
    | some row => exact Or.inr ⟨row, rfl, rfl⟩

/-- Of four achievements for visits, a user has started the first one, has completed the second one
and had started the third one before it was deleted. Somebody else has started the fourth one. -/
def mixedStarts : List Operation :=
  let input (times : Amount) : NewAchievement :=
    ⟨⟨1⟩, "Welcome", 5, 10, ⟨.visit times, .indefinite⟩⟩
  let visit (id : UserId) (achievementId : AchievementId) : Operation :=
    .record .newYear id achievementId
  [.createAchievement (input 3), .createAchievement (input 1), .createAchievement (input 4),
    .createAchievement (input 2), visit ⟨7⟩ ⟨3⟩, visit ⟨7⟩ ⟨2⟩, visit ⟨8⟩ ⟨4⟩, visit ⟨7⟩ ⟨1⟩,
    .deleteAchievement ⟨3⟩]

theorem mixedStarts_partition :
    let a (id : AchievementId) (times : Amount) : Achievement :=
      ⟨id, ⟨1⟩, "Welcome", 5, 10, ⟨.visit times, .indefinite⟩⟩
    ((Operation.listUnstarted [a ⟨1⟩ 3, a ⟨2⟩ 1, a ⟨3⟩ 4, a ⟨4⟩ 2, a ⟨2⟩ 1, a ⟨1⟩ 3] ⟨7⟩).call
        (serve mixedStarts empty)).answer =
          .ok (.shown [⟨a ⟨2⟩ 1, 0, 1⟩, ⟨a ⟨3⟩ 4, 0, 4⟩, ⟨a ⟨4⟩ 2, 0, 2⟩, ⟨a ⟨2⟩ 1, 0, 1⟩]) ∧
      ∃ rows, ((Operation.listProgress ⟨7⟩).call (serve mixedStarts empty)).answer =
          .ok (.rows rows) ∧
        ∃ row, (rows.filter fun row => row.achievementId = ⟨1⟩) = [row] ∧
          ((Operation.findProgress ⟨1⟩ ⟨7⟩).call (serve mixedStarts empty)).answer =
            .ok (.row row) := by
  intro a
  obtain ⟨hchosen, rows, hrows, -, -, hboth⟩ := progress_partitions (serve mixedStarts empty) ⟨7⟩
    [a ⟨1⟩ 3, a ⟨2⟩ 1, a ⟨3⟩ 4, a ⟨4⟩ 2, a ⟨2⟩ 1, a ⟨1⟩ 3]
  refine ⟨hchosen.trans (by decide), rows, hrows, (hboth (a ⟨1⟩ 3)).resolve_left ?_⟩
  rintro ⟨-, hmissing⟩
  revert hmissing
  decide

end Memory

end Loyalty
