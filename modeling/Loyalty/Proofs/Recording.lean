import Loyalty.Proofs.Visits

/-!
# Recordings

What counting an action comes to, whatever row was left in the store. A row that is not full counts
one further. A full row, which is what a failed payment leaves behind, stays as it is. Where the row
is full then, it is exchanged for its reward, unless that does not fit.
-/

namespace Loyalty

open Memory

namespace Table

variable {ρ κ : Type} [Ranked κ] [Keyed ρ κ] {t : Table ρ} {r r' : ρ} {k : κ}

theorem put_eq_self (h : t.find? (Keyed.key r) = some r) : t.put r = t := by
  apply ext_find?
  intro k
  by_cases hk : Keyed.key r = k
  · rw [find?_put_of_eq hk, ← hk, h]
  · exact find?_put_of_ne hk

theorem put_put (h : Keyed.key r = Keyed.key r') : (t.put r).put r' = t.put r' := by
  apply ext_find?
  intro k
  by_cases hk : Keyed.key r' = k
  · rw [find?_put_of_eq hk, find?_put_of_eq hk]
  · rw [find?_put_of_ne hk, find?_put_of_ne hk, find?_put_of_ne (by rwa [h])]

theorem erase_put (h : Keyed.key r = k) : (t.put r).erase k = t.erase k := by
  apply ext_find?
  intro k'
  by_cases hk : k = k'
  · rw [← hk, find?_erase_self, find?_erase_self]
  · rw [find?_erase_of_ne hk, find?_erase_of_ne hk, find?_put_of_ne (by rwa [h])]

end Table

namespace Progress

/-- The row after one more action; a full row stays as it is. -/
def next (row : Progress) : Progress := if row.progress < row.total then row.counted else row

variable {row : Progress}

theorem key_next (row : Progress) : Keyed.key row.next = (row.userId, row.achievementId) := by
  unfold next
  split <;> rfl

theorem next_of_open (h : row.progress < row.total) : row.next = row.counted := if_pos h

theorem next_of_full (h : row.progress = row.total) : row.next = row := by
  rw [next, h, if_neg Int32.lt_irrefl]

theorem next_le (h : row.progress ≤ row.total) : row.next.progress ≤ row.next.total := by
  unfold next
  split
  · rename_i hopen
    rw [Int32.le_iff_toInt_le, toInt_counted hopen]
    exact Int32.lt_iff_toInt_lt.1 hopen
  · exact h

/-- A row that holds no more than its total is complete where it is exactly full. -/
theorem eq_of_isComplete (h : row.isComplete = true) (hle : row.progress ≤ row.total) :
    row.progress = row.total := Int32.le_antisymm hle (of_decide_eq_true h)

/-- A row that is full after an action holds its total. -/
theorem next_of_isComplete (h : row.next.isComplete = true) (hle : row.progress ≤ row.total) :
    row.next = { row with progress := row.total } := by
  have hfull := eq_of_isComplete h (next_le hle)
  have hnext : row.next = { row with progress := row.next.progress } := by
    unfold next
    split <;> rfl
  rw [hnext] at hfull
  exact hnext.trans (congrArg (fun p => { row with progress := p }) hfull)

end Progress

namespace Memory

/-- The row of a user for an achievement, or the one that a recording starts. -/
def rowOf (userId : UserId) (a : Achievement) (s : Memory) : Progress :=
  (s.progress.find? (userId, a.id)).getD ⟨userId, a.id, 0, a.target⟩

def paid (userId : UserId) (achievementId : AchievementId) (b : Balance) (s : Memory) : Memory :=
  { s with progress := s.progress.erase (userId, achievementId), balances := s.balances.put b }

def withRow (row : Progress) (s : Memory) : Memory := { s with progress := s.progress.put row }

variable {s : Memory} {userId : UserId} {achievementId : AchievementId} {a : Achievement}
  {row row' : Progress}

theorem key_rowOf (s : Memory) (userId : UserId) (a : Achievement) :
    Keyed.key (s.rowOf userId a) = (userId, a.id) := by
  unfold rowOf
  cases hfound : s.progress.find? (userId, a.id) with
  | none => rfl
  | some row => exact (Table.find?_eq_some_iff.1 hfound).2

theorem rowOf_of_find? (h : s.progress.find? (userId, a.id) = some row) :
    s.rowOf userId a = row := by
  rw [rowOf, h]
  rfl

theorem find?_withRow (h : Keyed.key row = (userId, achievementId)) :
    (s.withRow row).progress.find? (userId, achievementId) = some row := Table.find?_put_of_eq h

theorem withRow_eq_self (h : s.progress.find? (Keyed.key row) = some row) : s.withRow row = s := by
  rw [withRow, Table.put_eq_self h]

theorem withRow_withRow (h : Keyed.key row = Keyed.key row') :
    (s.withRow row).withRow row' = s.withRow row' := by
  simp only [withRow, Table.put_put h]

theorem paid_withRow (h : Keyed.key row = (userId, achievementId)) (b : Balance) :
    (s.withRow row).paid userId achievementId b = s.paid userId achievementId b := by
  simp only [withRow, paid, Table.erase_put h]

end Memory

namespace Achievements

variable {s : Memory} {userId : UserId} {achievementId : AchievementId} {a : Achievement}
  {stored : Progress}

theorem handle_findProgress (h : s.progress.find? (userId, achievementId) = some stored) :
    handle (.findProgress achievementId userId) s = (.ok (some stored), s) := by
  rw [← h]
  rfl

/-- A row that is not there counts nothing. -/
theorem run_count_absent (h : s.progress.find? (userId, achievementId) = none) :
    (count achievementId userId).run handle s =
      (.error (.progressNotFound achievementId userId), s) := by
  have hcounted : handle (.increment achievementId userId) s = (.ok none, s) := by
    simp only [handle, increment, h, answered]
  have hfound : handle (.findProgress achievementId userId) s = (.ok none, s) := by
    rw [← h]
    rfl
  refine (Script.run_ask_bind hcounted).trans ?_
  change (findProgress achievementId userId >>= _).run handle s = _
  rw [Script.bind_eq, Script.run_bind, findProgress, Script.run_ask_bind hfound]
  rfl

/-- A row that is there counts, unless it is full, and is the answer in both cases. -/
theorem run_count_stored (h : s.progress.find? (userId, achievementId) = some stored) :
    (count achievementId userId).run handle s = (.ok stored.next, s.withRow stored.next) := by
  by_cases hopen : stored.progress < stored.total
  · rw [run_count h hopen, Progress.next_of_open hopen]
    rfl
  · have hkey : Keyed.key stored = (userId, achievementId) := (Table.find?_eq_some_iff.1 h).2
    have hcounted : handle (.increment achievementId userId) s = (.ok none, s) := by
      simp only [handle, increment, h, if_neg hopen, answered]
    have hcomplete : stored.isComplete = true := decide_eq_true (Int32.not_lt.1 hopen)
    rw [Progress.next, if_neg hopen, withRow_eq_self (by rw [hkey, h])]
    refine (Script.run_ask_bind hcounted).trans ?_
    change (findProgress achievementId userId >>= _).run handle s = _
    rw [Script.bind_eq, Script.run_bind, findProgress, Script.run_ask_bind (handle_findProgress h)]
    simp only [Script.ofOption, Script.run_done, hcomplete]
    rfl

/-- An action is counted, and the row that is full then is completed. -/
theorem run_advance_stored (row : Progress)
    (h : s.progress.find? (row.userId, row.achievementId) = some stored) :
    (advance row).run handle s =
      if stored.next.isComplete then
        match (complete stored.next).run handle (s.withRow stored.next) with
        | (.ok reward, s) => (.ok (.completed row.userId row.achievementId reward), s)
        | (.error e, s) => (.error e, s)
      else (.ok (.advanced stored.next), s.withRow stored.next) := by
  rw [advance, Script.bind_eq, Script.run_bind, run_count_stored h]
  cases hcomplete : stored.next.isComplete with
  | false =>
    simp only [hcomplete]
    rfl
  | true =>
    simp only [hcomplete, if_true]
    rw [Script.bind_eq, Script.run_bind]
    rcases (complete stored.next).run handle (s.withRow stored.next) with ⟨e | reward, s'⟩ <;> rfl

/-- The payment of a row that is full after an action fits the balance or leaves the row full. -/
theorem run_advance_completing (row : Progress)
    (h : s.progress.find? (row.userId, row.achievementId) = some stored)
    (hle : stored.progress ≤ stored.total) (hcomplete : stored.next.isComplete = true)
    (hoffered : s.achievements.find? row.achievementId = some a) :
    (advance row).run handle s =
      match credited? (s.balanceOf row.userId a.restaurantId) a.points a.experience with
      | none => (.error (.store .balanceOutOfRange), s.withRow stored.next)
      | some b => (.ok (.completed row.userId row.achievementId a.reward),
          s.paid row.userId row.achievementId b) := by
  obtain ⟨huser, hachievement⟩ : stored.next.userId = row.userId ∧
      stored.next.achievementId = row.achievementId := by
    rw [← Prod.mk.injEq, ← (Table.find?_eq_some_iff.1 h).2]
    exact Progress.key_next stored
  have hkey : Keyed.key stored.next = (row.userId, row.achievementId) :=
    Prod.ext huser hachievement
  have hpaid := run_complete_full (s := s.withRow stored.next) (a := a) stored.next
    (by rw [hachievement]; exact hoffered) (find?_withRow rfl)
    (Progress.eq_of_isComplete hcomplete (Progress.next_le hle))
  rw [run_advance_stored row h, if_pos hcomplete, hpaid, huser, hachievement]
  have hbalance : (s.withRow stored.next).balanceOf row.userId a.restaurantId =
      s.balanceOf row.userId a.restaurantId := rfl
  rw [hbalance]
  cases credited? (s.balanceOf row.userId a.restaurantId) a.points a.experience with
  | none => rfl
  | some b => exact congrArg (Prod.mk _) (paid_withRow hkey b)

theorem run_start_absent {total : Amount}
    (h : s.progress.find? (userId, achievementId) = none) :
    (start achievementId userId total).run handle s =
      (.ok ⟨userId, achievementId, 0, total⟩, s.withRow ⟨userId, achievementId, 0, total⟩) := by
  simp only [start, Script.run_call, handle, createProgress, h]
  rfl

theorem run_record_rowOf {today : Date} (hstored : s.achievements.find? a.id = some a)
    (hactive : a.requirement.statusOn today = .active) :
    (record today userId a.id).run handle s =
      (advance (s.rowOf userId a)).run handle (s.withRow (s.rowOf userId a)) := by
  cases hfound : s.progress.find? (userId, a.id) with
  | none =>
    rw [run_record_fresh hstored hactive hfound, rowOf, hfound]
    rfl
  | some row =>
    have hkey : Keyed.key row = (userId, a.id) := (Table.find?_eq_some_iff.1 hfound).2
    rw [run_record hstored hactive hfound, rowOf_of_find? hfound,
      withRow_eq_self (by rw [hkey, hfound])]

/-- What counting an action on the row that is there, or was just started, comes to. -/
theorem run_advance_rowOf (hstored : s.achievements.find? a.id = some a)
    (hle : (s.rowOf userId a).progress ≤ (s.rowOf userId a).total) :
    (advance (s.rowOf userId a)).run handle (s.withRow (s.rowOf userId a)) =
      if (s.rowOf userId a).next.isComplete then
        match credited? (s.balanceOf userId a.restaurantId) a.points a.experience with
        | none => (.error (.store .balanceOutOfRange), s.withRow (s.rowOf userId a).next)
        | some b => (.ok (.completed userId a.id a.reward), s.paid userId a.id b)
      else (.ok (.advanced (s.rowOf userId a).next), s.withRow (s.rowOf userId a).next) := by
  have hkey := key_rowOf s userId a
  obtain ⟨huser, hid⟩ := Prod.mk.inj hkey
  have hnext : Keyed.key (s.rowOf userId a) = Keyed.key (s.rowOf userId a).next :=
    (Progress.key_next _).symm
  have hfound : (s.withRow (s.rowOf userId a)).progress.find?
      ((s.rowOf userId a).userId, (s.rowOf userId a).achievementId) = some (s.rowOf userId a) :=
    find?_withRow rfl
  by_cases hcomplete : (s.rowOf userId a).next.isComplete = true
  · have hrun := run_advance_completing (a := a) (s.rowOf userId a) hfound hle hcomplete
      (by rw [hid]; exact hstored)
    have hbalance : (s.withRow (s.rowOf userId a)).balanceOf userId a.restaurantId =
        s.balanceOf userId a.restaurantId := rfl
    rw [hrun, if_pos hcomplete, huser, hid, hbalance]
    cases credited? (s.balanceOf userId a.restaurantId) a.points a.experience with
    | none => exact congrArg (Prod.mk _) (withRow_withRow hnext)
    | some b => exact congrArg (Prod.mk _) (paid_withRow hkey b)
  · rw [run_advance_stored _ hfound, if_neg hcomplete, if_neg hcomplete, withRow_withRow hnext]

end Achievements

end Loyalty
