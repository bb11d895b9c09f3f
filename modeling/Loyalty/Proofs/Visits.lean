import Loyalty.Proofs.Sequence
import Mathlib.Algebra.BigOperators.Fin
import Mathlib.Data.List.Forall2

/-!
# Visits

A visit is a call that counts one action of a user towards an achievement on a day on which it is
active. Visits go round in cycles: each counts one further, the one that reaches the target is paid
and takes the row with it, and the next one starts a new row. Calls in between that spare the row
and the achievement change nothing about that.
-/

namespace Loyalty

open Memory

namespace Achievements

variable {s : Memory} {a : Achievement}

theorem run_get_ok {id : AchievementId} (h : s.achievements.find? id = some a) :
    (get id).run handle s = (.ok a, s) := by
  have hanswer : handle (.findAchievement id) s = (.ok (some a), s) := by
    rw [← h]
    rfl
  exact Script.run_ask_bind hanswer

theorem run_reward_ok {id : AchievementId} (h : s.achievements.find? id = some a) :
    (reward id).run handle s = (.ok a.reward, s) := by
  rw [reward, Script.bind_eq, Script.run_bind, run_get_ok h]
  rfl

theorem run_complete {row : Progress} (hstored : s.achievements.find? row.achievementId = some a)
    (hcomplete : row.isComplete = true) :
    (complete row).run handle s =
      match handle (.complete row a.reward) s with
      | (.ok true, s) => (.ok a.reward, s)
      | (.ok false, s) => (.error (.alreadyCompleted row.achievementId row.userId), s)
      | (.error e, s) => (.error (.store e), s) := by
  rw [complete, Script.run_require, if_pos hcomplete, Script.bind_eq, Script.run_bind,
    run_reward_ok hstored]
  rcases hpaid : handle (.complete row a.reward) s with ⟨e | paid, s'⟩
  · exact Script.run_ask_bind_error hpaid
  · refine (Script.run_ask_bind hpaid).trans ?_
    cases paid <;> rfl

theorem run_complete_full (row : Progress)
    (hstored : s.achievements.find? row.achievementId = some a)
    (hfound : s.progress.find? (row.userId, row.achievementId) = some row)
    (hfull : row.progress = row.total) :
    (complete row).run handle s =
      match credited? (s.balanceOf row.userId a.restaurantId) a.points a.experience with
      | none => (.error (.store .balanceOutOfRange), s)
      | some b => (.ok a.reward, { s with
          progress := s.progress.erase (row.userId, row.achievementId),
          balances := s.balances.put b }) := by
  have hcomplete : row.isComplete = true := by
    rw [Progress.isComplete, hfull]
    exact decide_eq_true (Int32.le_refl _)
  rw [run_complete hstored hcomplete, handle_complete_of_full a.reward hfound hfull,
    Achievement.reward]
  cases credited? (s.balanceOf row.userId a.restaurantId) a.points a.experience <;> rfl

theorem run_count {achievementId : AchievementId} {userId : UserId} {row : Progress}
    (hfound : s.progress.find? (userId, achievementId) = some row)
    (hopen : row.progress < row.total) :
    (count achievementId userId).run handle s =
      (.ok row.counted, { s with progress := s.progress.put row.counted }) :=
  Script.run_ask_bind (handle_increment_of_open hfound hopen)

theorem run_advance (row : Progress) {stored : Progress}
    (hfound : s.progress.find? (row.userId, row.achievementId) = some stored)
    (hopen : stored.progress < stored.total) (hmore : stored.counted.isComplete = false) :
    (advance row).run handle s =
      (.ok (.advanced stored.counted), { s with progress := s.progress.put stored.counted }) := by
  rw [advance, Script.bind_eq, Script.run_bind, run_count hfound hopen]
  simp only [hmore]
  rfl

theorem run_advance_full (row : Progress) {stored : Progress}
    (hfound : s.progress.find? (row.userId, row.achievementId) = some stored)
    (hopen : stored.progress < stored.total) (hfull : stored.counted.isComplete = true) :
    (advance row).run handle s =
      match (complete stored.counted).run handle
        { s with progress := s.progress.put stored.counted } with
      | (.ok reward, s) => (.ok (.completed row.userId row.achievementId reward), s)
      | (.error e, s) => (.error e, s) := by
  rw [advance, Script.bind_eq, Script.run_bind, run_count hfound hopen]
  simp only [hfull, if_true]
  rw [Script.bind_eq, Script.run_bind]
  rcases (complete stored.counted).run handle _ with ⟨e | reward, s'⟩ <;> rfl

theorem run_record {today : Date} {userId : UserId} {row : Progress}
    (hstored : s.achievements.find? a.id = some a)
    (hactive : a.requirement.statusOn today = .active)
    (hfound : s.progress.find? (userId, a.id) = some row) :
    (record today userId a.id).run handle s = (advance row).run handle s := by
  have hrow : handle (.findProgress a.id userId) s = (.ok (some row), s) := by
    rw [← hfound]
    rfl
  rw [record, Script.bind_eq, Script.run_bind, run_get_ok hstored]
  dsimp only
  rw [hactive]
  exact Script.run_ask_bind hrow

theorem run_record_fresh {today : Date} {userId : UserId}
    (hstored : s.achievements.find? a.id = some a)
    (hactive : a.requirement.statusOn today = .active)
    (hfound : s.progress.find? (userId, a.id) = none) :
    (record today userId a.id).run handle s =
      (advance ⟨userId, a.id, 0, a.target⟩).run handle
        { s with progress := s.progress.put ⟨userId, a.id, 0, a.target⟩ } := by
  have hrow : handle (.findProgress a.id userId) s = (.ok none, s) := by
    rw [← hfound]
    rfl
  have hstart : (start a.id userId a.target).run handle s = (.ok ⟨userId, a.id, 0, a.target⟩,
      { s with progress := s.progress.put ⟨userId, a.id, 0, a.target⟩ }) := by
    simp only [start, Script.run_call, handle, createProgress, hfound]
    rfl
  rw [record, Script.bind_eq, Script.run_bind, run_get_ok hstored]
  dsimp only
  rw [hactive]
  refine (Script.run_ask_bind hrow).trans ?_
  change (start a.id userId a.target >>= advance).run handle s = _
  rw [Script.bind_eq, Script.run_bind, hstart]

end Achievements

namespace Achievement

variable (a : Achievement) (userId : UserId)

def cycle : Nat := a.target.toInt.toNat

/-- The row of a user after some actions, before the last of a cycle. -/
def rowAt (n : Nat) : Progress := ⟨userId, a.id, Int32.ofNat (n % a.cycle), a.target⟩

def rowAt? (n : Nat) : Option Progress := if a.cycle ∣ n then none else some (a.rowAt userId n)

/-- What the last of some actions comes to. -/
def outcomeAt (n : Nat) : Outcome :=
  if a.cycle ∣ n then .completed userId a.id a.reward else .advanced (a.rowAt userId n)

variable {a userId} {n : Nat}

theorem toInt_target (h : 1 ≤ a.target.toInt) : a.target.toInt = a.cycle := by
  rw [cycle]
  omega

theorem cycle_pos (h : 1 ≤ a.target.toInt) : 0 < a.cycle := by
  rw [cycle]
  omega

theorem toInt_rowAt (h : 1 ≤ a.target.toInt) :
    (a.rowAt userId n).progress.toInt = (n % a.cycle : Nat) := by
  have hbound := (Amount.bounds a.target).2
  have hlt := Nat.mod_lt n (cycle_pos h)
  have htarget := toInt_target h
  exact Int32.toInt_ofNat_of_lt (by omega)

theorem rowAt_open (h : 1 ≤ a.target.toInt) :
    (a.rowAt userId n).progress < (a.rowAt userId n).total := by
  have hlt := Nat.mod_lt n (cycle_pos h)
  rw [Int32.lt_iff_toInt_lt, toInt_rowAt h, rowAt, toInt_target h]
  exact Int.ofNat_lt.2 hlt

theorem key_rowAt (n : Nat) : Keyed.key (a.rowAt userId n) = (userId, a.id) := rfl

/-- A row that is about to be started is that after a whole number of cycles. -/
theorem rowAt_of_dvd (h : a.cycle ∣ n) : a.rowAt userId n = ⟨userId, a.id, 0, a.target⟩ := by
  rw [rowAt, Nat.mod_eq_zero_of_dvd h]
  rfl

theorem succ_mod_of_dvd (h : a.cycle ∣ n + 1) : n % a.cycle + 1 = a.cycle := by
  have hbefore := Nat.div_add_mod n a.cycle
  have hafter := Nat.mul_div_cancel' h
  rw [Nat.succ_div_of_dvd h, Nat.mul_succ] at hafter
  omega

theorem succ_mod_of_not_dvd (h : ¬ a.cycle ∣ n + 1) : (n + 1) % a.cycle = n % a.cycle + 1 := by
  have hbefore := Nat.div_add_mod n a.cycle
  have hafter := Nat.div_add_mod (n + 1) a.cycle
  rw [Nat.succ_div_of_not_dvd h] at hafter
  omega

theorem counted_rowAt_of_dvd (h : 1 ≤ a.target.toInt) (hlast : a.cycle ∣ n + 1) :
    (a.rowAt userId n).counted = ⟨userId, a.id, a.target, a.target⟩ := by
  have hopen : (a.rowAt userId n).progress < (a.rowAt userId n).total := rowAt_open h
  have hcounted := Progress.toInt_counted hopen
  have hprogress : (a.rowAt userId n).counted.progress = a.target := by
    have := succ_mod_of_dvd hlast
    rw [← Int32.toInt_inj, hcounted, toInt_rowAt h, toInt_target h]
    omega
  exact congrArg (fun p => (⟨userId, a.id, p, a.target⟩ : Progress)) hprogress

theorem counted_rowAt (h : 1 ≤ a.target.toInt) (hmore : ¬ a.cycle ∣ n + 1) :
    (a.rowAt userId n).counted = a.rowAt userId (n + 1) := by
  have hopen : (a.rowAt userId n).progress < (a.rowAt userId n).total := rowAt_open h
  have hcounted := Progress.toInt_counted hopen
  have hprogress : (a.rowAt userId n).counted.progress = (a.rowAt userId (n + 1)).progress := by
    have := succ_mod_of_not_dvd hmore
    rw [← Int32.toInt_inj, hcounted, toInt_rowAt h, toInt_rowAt h]
    omega
  exact congrArg (fun p => (⟨userId, a.id, p, a.target⟩ : Progress)) hprogress

theorem isComplete_counted_rowAt (h : 1 ≤ a.target.toInt) :
    (a.rowAt userId n).counted.isComplete = decide (a.cycle ∣ n + 1) := by
  by_cases hlast : a.cycle ∣ n + 1
  · rw [counted_rowAt_of_dvd h hlast, decide_eq_true hlast]
    exact decide_eq_true (Int32.le_refl _)
  · rw [counted_rowAt h hlast, decide_eq_false hlast]
    exact decide_eq_false (Int32.not_le.2 (rowAt_open h))

end Achievement

namespace Memory

variable {s : Memory} {a : Achievement} {userId : UserId} {n : Nat}

/-- What becomes of the store when an action is counted and is not the last of a cycle, or is the
last and paid. -/
inductive Visited (a : Achievement) (userId : UserId) (n : Nat) (s s' : Memory) : Prop
  | advanced (hmore : ¬ a.cycle ∣ n) (hbalances : s'.balances = s.balances)
  | completed (hlast : a.cycle ∣ n) {b : Balance}
      (hcredit : credited? (s.balanceOf userId a.restaurantId) a.points a.experience = some b)
      (hbalances : s'.balances = s.balances.put b)

theorem exists_run_record {today : Date} (hactive : a.requirement.statusOn today = .active)
    (hstored : s.achievements.find? a.id = some a)
    (hrow : s.progress.find? (userId, a.id) = a.rowAt? userId n) :
    ∃ s₁ : Memory, s₁.achievements = s.achievements ∧ s₁.balances = s.balances ∧
      s₁.progress.find? (userId, a.id) = some (a.rowAt userId n) ∧
      (Achievements.record today userId a.id).run handle s =
        (Achievements.advance (a.rowAt userId n)).run handle s₁ := by
  rw [Achievement.rowAt?] at hrow
  split at hrow
  · rename_i hcycle
    refine ⟨{ s with progress := s.progress.put (a.rowAt userId n) }, rfl, rfl,
      Table.find?_put_of_eq (Achievement.key_rowAt n), ?_⟩
    rw [Achievement.rowAt_of_dvd hcycle]
    exact Achievements.run_record_fresh hstored hactive hrow
  · exact ⟨s, rfl, rfl, hrow, Achievements.run_record hstored hactive hrow⟩

/-- The last action of a cycle fills the row, and is paid where the reward fits. -/
theorem run_advance_last (htarget : 1 ≤ a.target.toInt) (hlast : a.cycle ∣ n + 1)
    (hstored : s.achievements.find? a.id = some a)
    (hfound : s.progress.find? (userId, a.id) = some (a.rowAt userId n)) :
    (Achievements.advance (a.rowAt userId n)).run handle s =
      match credited? (s.balanceOf userId a.restaurantId) a.points a.experience with
      | none => (.error (.store .balanceOutOfRange),
          { s with progress := s.progress.put ⟨userId, a.id, a.target, a.target⟩ })
      | some b => (.ok (.completed userId a.id a.reward), { s with
          progress := (s.progress.put ⟨userId, a.id, a.target, a.target⟩).erase (userId, a.id),
          balances := s.balances.put b }) := by
  have hopen : (a.rowAt userId n).progress < (a.rowAt userId n).total :=
    Achievement.rowAt_open htarget
  have hcomplete : (a.rowAt userId n).counted.isComplete = true := by
    rw [Achievement.isComplete_counted_rowAt htarget, decide_eq_true hlast]
  have hpaid := Achievements.run_complete_full
    (s := { s with progress := s.progress.put ⟨userId, a.id, a.target, a.target⟩ })
    ⟨userId, a.id, a.target, a.target⟩ hstored (Table.find?_put_self _ _) rfl
  have hbalance : ({ s with progress := s.progress.put ⟨userId, a.id, a.target, a.target⟩ } :
      Memory).balanceOf userId a.restaurantId = s.balanceOf userId a.restaurantId := rfl
  rw [hbalance] at hpaid
  rw [Achievements.run_advance_full (a.rowAt userId n) hfound hopen hcomplete,
    Achievement.counted_rowAt_of_dvd htarget hlast, hpaid]
  cases credited? (s.balanceOf userId a.restaurantId) a.points a.experience <;> rfl

/-- A visit counts one action further, as long as the balance takes the reward where the action is
the last of a cycle. -/
theorem run_visit {today : Date} (hactive : a.requirement.statusOn today = .active)
    (htarget : 1 ≤ a.target.toInt) (hstored : s.achievements.find? a.id = some a)
    (hrow : s.progress.find? (userId, a.id) = a.rowAt? userId n)
    (hfits : a.cycle ∣ n + 1 →
      credited? (s.balanceOf userId a.restaurantId) a.points a.experience ≠ none) :
    ((Achievements.record today userId a.id).run handle s).1 =
        .ok (a.outcomeAt userId (n + 1)) ∧
      ((Achievements.record today userId a.id).run handle s).2.progress.find? (userId, a.id) =
        a.rowAt? userId (n + 1) ∧
      s.Visited a userId (n + 1) ((Achievements.record today userId a.id).run handle s).2 := by
  obtain ⟨s₁, hachievements, hbalances, hfound, hrun⟩ := exists_run_record hactive hstored hrow
  rw [hrun]
  by_cases hlast : a.cycle ∣ n + 1
  · have hbalance : s₁.balanceOf userId a.restaurantId = s.balanceOf userId a.restaurantId := by
      rw [balanceOf, balanceOf, hbalances]
    rw [run_advance_last htarget hlast (by rwa [hachievements]) hfound, hbalance]
    cases hcredit : credited? (s.balanceOf userId a.restaurantId) a.points a.experience with
    | none => exact absurd hcredit (hfits hlast)
    | some b =>
      rw [Achievement.outcomeAt, if_pos hlast, Achievement.rowAt?, if_pos hlast]
      refine ⟨rfl, Table.find?_erase_self _ _, .completed hlast hcredit ?_⟩
      exact congrArg (fun t : Table Balance => t.put b) hbalances
  · have hopen : (a.rowAt userId n).progress < (a.rowAt userId n).total :=
      Achievement.rowAt_open htarget
    have hmore : (a.rowAt userId n).counted.isComplete = false := by
      rw [Achievement.isComplete_counted_rowAt htarget, decide_eq_false hlast]
    rw [Achievements.run_advance (a.rowAt userId n) hfound hopen hmore,
      Achievement.counted_rowAt htarget hlast, Achievement.outcomeAt, if_neg hlast,
      Achievement.rowAt?, if_neg hlast]
    exact ⟨rfl, Table.find?_put_of_eq (Achievement.key_rowAt _), .advanced hlast hbalances⟩

end Memory

/-- A visit by a user: a recording for the achievement on a day on which it is active. -/
def Operation.visits (userId : UserId) (a : Achievement) : Operation → Bool
  | .record today visitor id =>
    visitor = userId ∧ id = a.id ∧ a.requirement.statusOn today = .active
  | _ => false

theorem Operation.withdraws?_of_visits {userId : UserId} {a : Achievement} (op : Operation)
    (h : op.visits userId a = true) : op.withdraws? = none := by
  cases op with
  | record => rfl
  | _ => cases h

namespace Call

def gain (c : Call) (userId : UserId) (restaurantId : RestaurantId) (part : Balance → Amount) :
    Int :=
  (part (c.after.balanceOf userId restaurantId)).toInt -
    (part (c.before.balanceOf userId restaurantId)).toInt

structure Spares (userId : UserId) (id : AchievementId) (c : Call) : Prop where
  deletion : c.op.withdraws? ≠ some id
  row : c.op.rowKey? ≠ some (userId, id) ∨
    c.after.progress.find? (userId, id) = c.before.progress.find? (userId, id)

instance {userId : UserId} {id : AchievementId} (c : Call) : Decidable (c.Spares userId id) :=
  decidable_of_iff (c.op.withdraws? ≠ some id ∧ (c.op.rowKey? ≠ some (userId, id) ∨
    c.after.progress.find? (userId, id) = c.before.progress.find? (userId, id)))
    ⟨fun h => ⟨h.1, h.2⟩, fun h => ⟨h.deletion, h.row⟩⟩

/-- A call counts as the last of some actions of a user. -/
structure Counts (a : Achievement) (userId : UserId) (n : Nat) (c : Call) : Prop where
  answer : c.answer = .ok (.outcome (a.outcomeAt userId n))
  row : c.after.progress.find? (userId, a.id) = a.rowAt? userId n
  points : c.gain userId a.restaurantId Balance.points = if a.cycle ∣ n then a.points.toInt else 0
  experience : c.gain userId a.restaurantId Balance.experience =
    if a.cycle ∣ n then a.experience.toInt else 0
  others : ∀ key, key ≠ (userId, a.restaurantId) →
    c.after.balances.find? key = c.before.balances.find? key

end Call

namespace Memory

variable {s : Memory} {a : Achievement} {userId : UserId} {n : Nat}

theorem counts_call {op : Operation} (hvisit : op.visits userId a = true)
    (htarget : 1 ≤ a.target.toInt) (hstored : s.achievements.find? a.id = some a)
    (hrow : s.progress.find? (userId, a.id) = a.rowAt? userId n)
    (hfits : a.cycle ∣ n + 1 →
      credited? (s.balanceOf userId a.restaurantId) a.points a.experience ≠ none) :
    (op.call s).Counts a userId (n + 1) := by
  unfold Operation.visits at hvisit
  split at hvisit
  · rename_i today visitor id
    obtain ⟨rfl, rfl, hactive⟩ := of_decide_eq_true hvisit
    have hcall : (Operation.record today visitor a.id).call s =
        ⟨.record today visitor a.id, s,
          Script.relabelResult .achievement .outcome
            ((Achievements.record today visitor a.id).run handle s).1,
          ((Achievements.record today visitor a.id).run handle s).2⟩ := by
      rw [Operation.call, Operation.script, Script.run_relabel]
    rw [hcall]
    obtain ⟨hanswer, hrow', hvisited⟩ := run_visit hactive htarget hstored hrow hfits
    generalize ((Achievements.record today visitor a.id).run handle s).1 = answer at hanswer
    generalize ((Achievements.record today visitor a.id).run handle s).2 = s' at hrow' hvisited
    subst hanswer
    cases hvisited with
    | advanced hmore hbalances =>
      have hsame : s'.balanceOf visitor a.restaurantId = s.balanceOf visitor a.restaurantId := by
        rw [balanceOf, balanceOf, hbalances]
      refine ⟨rfl, hrow', ?_, ?_, fun key _ => congrArg (Table.find? · key) hbalances⟩
      · rw [Call.gain, hsame, if_neg hmore, Int.sub_self]
      · rw [Call.gain, hsame, if_neg hmore, Int.sub_self]
    | @completed hlast b hcredit hbalances =>
      have hkey : Keyed.key b = (visitor, a.restaurantId) :=
        (key_of_credited? hcredit).trans (key_balanceOf s visitor a.restaurantId)
      have hnow : s'.balanceOf visitor a.restaurantId = b := by
        rw [balanceOf, hbalances, Table.find?_put_of_eq hkey]
        rfl
      obtain ⟨hpoints, hexperience⟩ := toInt_of_credited? hcredit
      refine ⟨rfl, hrow', ?_, ?_, fun key hother => ?_⟩
      · rw [Call.gain, hnow, hpoints, if_pos hlast, Int.add_comm]
        exact Int.add_sub_cancel _ _
      · rw [Call.gain, hnow, hexperience, if_pos hlast, Int.add_comm]
        exact Int.add_sub_cancel _ _
      · change s'.balances.find? key = s.balances.find? key
        rw [hbalances, Table.find?_put_of_ne (hkey ▸ hother.symm)]
  · cases hvisit

def visits (userId : UserId) (a : Achievement) (ops : List Operation) (s : Memory) : List Call :=
  (calls ops s).filter fun c => c.op.visits userId a

/-- Every visit of a sequence counts one action further, whatever else is called in between. -/
theorem counts_calls (ops : List Operation) (htarget : 1 ≤ a.target.toInt)
    (hnumber : a.id.value.toInt ≤ s.created) (hstored : s.achievements.find? a.id = some a)
    (hrow : s.progress.find? (userId, a.id) = a.rowAt? userId n)
    (hcalls : ∀ c ∈ calls ops s, c.op.visits userId a = true ∨ c.Spares userId a.id)
    (hroom : (serve ops s).created < 2147483647)
    (hfits : ∀ x ∈ (visits userId a ops s).zipIdx (n + 1), a.cycle ∣ x.2 →
      credited? (x.1.before.balanceOf userId a.restaurantId) a.points a.experience ≠ none) :
    List.Forall₂ (Call.Counts a userId) (List.range' (n + 1) (visits userId a ops s).length)
        (visits userId a ops s) ∧
      (serve ops s).progress.find? (userId, a.id) =
        a.rowAt? userId (n + (visits userId a ops s).length) := by
  -- The induction is on the calls that are still to come, after any number of actions.
  induction ops generalizing s n with
  | nil => exact ⟨.nil, hrow⟩
  | cons op ops ih =>
    have hthere : (op.call s).after.created < 2147483647 :=
      Nat.lt_of_le_of_lt (created_le_serve ops _) hroom
    have hnumber' : a.id.value.toInt ≤ (op.call s).after.created := by
      have := created_le_call op s
      omega
    have hcalls' : ∀ c ∈ calls ops (op.call s).after,
        c.op.visits userId a = true ∨ c.Spares userId a.id :=
      fun c hc => hcalls c (List.mem_cons_of_mem _ hc)
    by_cases hvisit : op.visits userId a = true
    · have hsplit : visits userId a (op :: ops) s =
          op.call s :: visits userId a ops (op.call s).after :=
        List.filter_cons_of_pos hvisit
      rw [hsplit, List.zipIdx_cons] at hfits
      rw [hsplit]
      have hcounts := counts_call hvisit htarget hstored hrow (hfits _ List.mem_cons_self)
      have hgone : op.withdraws? ≠ some a.id := by
        rw [op.withdraws?_of_visits hvisit]
        exact nofun
      obtain ⟨hvisits, hend⟩ := ih hnumber' (achievement_of_call hgone hstored hnumber hthere)
        hcounts.row hcalls' hroom fun x hx => hfits x (List.mem_cons_of_mem _ hx)
      rw [List.length_cons, List.range'_succ]
      refine ⟨.cons hcounts hvisits, ?_⟩
      rw [serve, hend, Nat.add_right_comm, Nat.add_assoc]
    · have hspares := (hcalls (op.call s) List.mem_cons_self).resolve_left hvisit
      have hsplit : visits userId a (op :: ops) s = visits userId a ops (op.call s).after :=
        List.filter_cons_of_neg hvisit
      rw [hsplit] at hfits ⊢
      have hsame : (op.call s).after.progress.find? (userId, a.id) = a.rowAt? userId n := by
        rcases hspares.row with houtside | hkept
        · exact (row_of_call houtside hspares.deletion).trans hrow
        · exact hkept.trans hrow
      exact ih hnumber' (achievement_of_call hspares.deletion hstored hnumber hthere) hsame hcalls'
        hroom hfits

end Memory

/-- What is gained at every multiple of a number is gained as often as that number divides. -/
theorem Call.sum_gains {gain : Call → Int} {size : Nat} {w : Int} {cs : List Call} {n : Nat}
    (h : List.Forall₂ (fun i c => gain c = if size ∣ i then w else 0)
      (List.range' (n + 1) cs.length) cs) :
    (n / size : Nat) * w + (cs.map gain).sum = ((n + cs.length) / size : Nat) * w := by
  induction cs generalizing n with
  | nil => simp
  | cons c cs ih =>
    rw [List.length_cons, List.range'_succ] at h
    cases h with
    | cons hc hcs =>
      have hrest := ih hcs
      rw [List.map_cons, List.sum_cons, hc, List.length_cons, ← Nat.add_assoc, Nat.add_right_comm,
        ← hrest, Nat.succ_div]
      split
      · rw [Int.natCast_add, Int.add_mul]
        omega
      · rw [Nat.add_zero]
        omega

namespace World

/-- From any store that a run has come to, visits count in cycles, as long as the balance takes the
reward whenever a cycle ends. The i-th visit is answered with
the row after i actions or, where the target divides i, with the completion; the row that is there
at the end is that after all visits; and the visits have added the reward to the balance once for
every whole cycle. -/
theorem visits_cycle (turns : List Turn) (ops : List Operation) {userId : UserId} {a : Achievement}
    (hstored : (run turns).store.achievements.find? a.id = some a)
    (hfresh : (run turns).store.progress.find? (userId, a.id) = none)
    (hcalls : ∀ c ∈ calls ops (run turns).store,
      c.op.visits userId a = true ∨ c.Spares userId a.id)
    (hroom : (serve ops (run turns).store).created < 2147483647)
    (hfits : ∀ x ∈ (visits userId a ops (run turns).store).zipIdx 1, a.cycle ∣ x.2 →
      credited? (x.1.before.balanceOf userId a.restaurantId) a.points a.experience ≠ none) :
    let cs := visits userId a ops (run turns).store
    0 < a.cycle ∧
      List.Forall₂ (Call.Counts a userId) (List.range' 1 cs.length) cs ∧
      (serve ops (run turns).store).progress.find? (userId, a.id) = a.rowAt? userId cs.length ∧
      (cs.map fun c => c.gain userId a.restaurantId Balance.points).sum =
        (cs.length / a.cycle : Nat) * a.points.toInt ∧
      (cs.map fun c => c.gain userId a.restaurantId Balance.experience).sum =
        (cs.length / a.cycle : Nat) * a.experience.toInt := by
  have hlogged : Logged True (run turns).exchanges (run turns).store :=
    logged_run turns fun _ _ _ => trivial
  have hcatalog := hlogged.catalog (Nat.lt_of_le_of_lt (created_le_serve ops _) hroom)
  have hoffered := hcatalog.stored a.id a hstored
  have htarget := (hcatalog.sound a hoffered).2.2
  have hrow : (run turns).store.progress.find? (userId, a.id) = a.rowAt? userId 0 := by
    rw [hfresh, Achievement.rowAt?, if_pos (Nat.dvd_zero _)]
  obtain ⟨hcounts, hend⟩ := counts_calls ops htarget (hcatalog.numbered a hoffered).2 hstored hrow
    hcalls hroom hfits
  rw [Nat.zero_add] at hcounts hend
  have hpoints := Call.sum_gains (n := 0) (hcounts.imp fun _ _ h => h.points)
  have hexperience := Call.sum_gains (n := 0) (hcounts.imp fun _ _ h => h.experience)
  rw [Nat.zero_div, Nat.zero_add] at hpoints hexperience
  refine ⟨Achievement.cycle_pos htarget, hcounts, hend, ?_, ?_⟩
  · omega
  · omega

def newYearOffer : Achievement :=
  ⟨⟨1⟩, ⟨1⟩, "Welcome", 5, 10, ⟨.visit 2, .window ⟨.newYear, .newYear, by decide⟩⟩⟩

def offering : List Turn :=
  [.start (.createAchievement ⟨⟨1⟩, "Welcome", 5, 10, newYearOffer.requirement⟩), .serve 0]

/-- Three visits on that day, with those of another user and of the next day in between. -/
def mixedVisits : List Operation :=
  let visit : Operation := .record .newYear ⟨7⟩ ⟨1⟩
  [visit, .record .newYear ⟨8⟩ ⟨1⟩, .record ⟨2024, 1, 2, by decide⟩ ⟨7⟩ ⟨1⟩, visit,
    .createRestaurant ⟨"Corner", "1 Main Street"⟩, .getReward ⟨1⟩, visit]

theorem mixedVisits_cycle :
    (serve mixedVisits (run offering).store).progress.find? (⟨7⟩, ⟨1⟩) =
        newYearOffer.rowAt? ⟨7⟩ 3 ∧
      newYearOffer.rowAt? ⟨7⟩ 3 = some ⟨⟨7⟩, ⟨1⟩, 1, 2⟩ ∧
      ((visits ⟨7⟩ newYearOffer mixedVisits (run offering).store).map
        fun c => c.gain ⟨7⟩ ⟨1⟩ Balance.points).sum = 10 := by
  have hstored : (run offering).store.achievements.find? newYearOffer.id = some newYearOffer := by
    decide
  have hfresh : (run offering).store.progress.find? (⟨7⟩, newYearOffer.id) = none := by decide
  obtain ⟨-, -, hend, hpoints, -⟩ := visits_cycle offering mixedVisits hstored hfresh (by decide)
    (by decide) (by decide)
  exact ⟨hend, by decide, hpoints⟩

end World

end Loyalty
