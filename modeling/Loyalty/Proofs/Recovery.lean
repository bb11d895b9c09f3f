import Loyalty.Proofs.Conservation
import Loyalty.Proofs.Recording

/-!
# Recovery

A caller may fail, or lose an answer, between any two of its requests. It may have started a row and
counted nothing, or have filled a row that was not paid for. The next recording takes up what it
finds: it counts one action on a row that has room, counts none on a row that is full, and pays the
reward of the row that is full then.
-/

namespace Loyalty

open Memory

namespace Script

variable {ε δ α β σ : Type}

def exchanges (handle : Handler σ) : Script ε α → σ → List Exchange
  | .done _, _ => []
  | .fail _, _ => []
  | .call r next, s =>
    ⟨r, (handle r s).1⟩ :: exchanges handle (next (handle r s).1) (handle r s).2

theorem exchanges_bind (handle : Handler σ) (p : Script ε α) (f : α → Script ε β) (s : σ) :
    exchanges handle (p >>= f) s =
      exchanges handle p s ++
        match run handle p s with
        | (.ok a, s) => exchanges handle (f a) s
        | (.error _, _) => [] := by
  rw [bind_eq]
  induction p generalizing s with
  | done a => rfl
  | fail e => rfl
  | call r next ih => exact congrArg (List.cons _) (ih _ _)

theorem exchanges_relabel (handle : Handler σ) (onError : ε → δ) (onValue : α → β)
    (p : Script ε α) (s : σ) :
    exchanges handle (p.relabel onError onValue) s = exchanges handle p s := by
  induction p generalizing s with
  | done a => rfl
  | fail e => rfl
  | call r next ih => exact congrArg (List.cons _) (ih _ _)

theorem exchanges_ask_bind {handle : Handler σ} {report : StoreError → ε} {r : Request}
    {f : r.Answer → Script ε α} {a : r.Answer} {s s' : σ} (h : handle r s = (.ok a, s')) :
    exchanges handle (ask report r >>= f) s = ⟨r, .ok a⟩ :: exchanges handle (f a) s' := by
  rw [exchanges_bind, run_ask_ok h, ask, exchanges, h]
  rfl

def actions (userId : UserId) (id : AchievementId) (p : Script ε α) (s : Memory) : Nat :=
  (p.exchanges handle s).countP (Exchange.counts userId id)

variable {userId : UserId} {id : AchievementId} {p : Script ε α} {s s' : Memory}

theorem actions_bind {f : α → Script ε β} {a : α} (h : p.run handle s = (.ok a, s')) :
    (p >>= f).actions userId id s = p.actions userId id s + (f a).actions userId id s' := by
  rw [actions, exchanges_bind, h, List.countP_append]
  rfl

/-- A script counts nothing that asks for no action to be counted. -/
theorem actions_eq_zero (past : List Exchange)
    (h : p.Keeps (fun _ r => ∀ id userId, r ≠ .increment id userId) (fun _ _ => True) past) :
    p.actions userId id s = 0 := by
  induction p generalizing past s with
  | done a => rfl
  | fail e => rfl
  | call r next ih =>
    have hrest := ih _ (s := (handle r s).2) _ (h.2 _ (onKey_handle s r))
    rw [actions, exchanges, List.countP_cons_of_neg]
    · exact hrest
    · rw [Exchange.counts_eq_true_iff]
      rintro ⟨row, hx⟩
      exact h.1 id userId (congrArg Sigma.fst hx)

end Script

namespace Achievements

variable {s : Memory} {userId : UserId} {id : AchievementId} {a : Achievement} {stored : Progress}

theorem actions_get : (get id).actions userId id s = 0 := by
  apply Script.actions_eq_zero []
  refine ⟨nofun, ?_⟩
  rintro (e | _ | a) _ <;> trivial

theorem keeps_complete_quiet (row : Progress) (past : List Exchange) :
    (complete row).Keeps (fun _ r => ∀ id userId, r ≠ .increment id userId) (fun _ _ => True)
      past := by
  refine Script.Keeps.require (fun _ => ⟨nofun, ?_⟩) fun _ => trivial
  rintro (e | _ | a) _
  · trivial
  · trivial
  · refine ⟨nofun, ?_⟩
    rintro (e | _ | _) _ <;> trivial

theorem actions_count (h : s.progress.find? (userId, id) = some stored) :
    (count id userId).actions userId id s = if stored.progress < stored.total then 1 else 0 := by
  by_cases hopen : stored.progress < stored.total
  · rw [if_pos hopen, Script.actions, count,
      Script.exchanges_ask_bind (handle_increment_of_open h hopen),
      List.countP_cons_of_pos (by simp [Exchange.counts, Exchange.counted?])]
    rfl
  · have hcounted : handle (.increment id userId) s = (.ok none, s) := by
      simp only [handle, increment, h, if_neg hopen, answered]
    rw [if_neg hopen, Script.actions, count, Script.exchanges_ask_bind hcounted,
      List.countP_cons_of_neg (by simp [Exchange.counts, Exchange.counted?])]
    apply Script.actions_eq_zero []
    refine ⟨?_, ?_⟩
    · rintro id userId ⟨⟩
    · rintro (e | _ | row) _
      · trivial
      · trivial
      · exact Script.Keeps.require (fun _ => trivial) fun _ => trivial

theorem actions_advance {row : Progress}
    (h : s.progress.find? (row.userId, row.achievementId) = some stored) :
    (advance row).actions row.userId row.achievementId s =
      if stored.progress < stored.total then 1 else 0 := by
  rw [advance, Script.actions_bind (run_count_stored h), actions_count h]
  apply Nat.add_eq_left.2
  apply Script.actions_eq_zero []
  split
  · exact (keeps_complete_quiet stored.next []).bind (fun _ _ _ => trivial) fun _ _ _ => trivial
  · trivial

theorem actions_findProgress {report : StoreError → AchievementError} :
    (Script.ask report (.findProgress id userId)).actions userId id s = 0 := rfl

theorem actions_start {total : Amount} (h : s.progress.find? (userId, id) = none) :
    (start id userId total).actions userId id s = 0 := by
  simp only [start, Script.actions, Script.exchanges, handle, createProgress, h]
  rfl

theorem actions_record {today : Date} (hstored : s.achievements.find? a.id = some a)
    (hactive : a.requirement.statusOn today = .active) :
    (record today userId a.id).actions userId a.id s =
      if (s.rowOf userId a).progress < (s.rowOf userId a).total then 1 else 0 := by
  have hadvance : (advance (s.rowOf userId a)).actions userId a.id (s.withRow (s.rowOf userId a)) =
      if (s.rowOf userId a).progress < (s.rowOf userId a).total then 1 else 0 := by
    obtain ⟨huser, hid⟩ := Prod.mk.inj (key_rowOf s userId a)
    have hrow := actions_advance (s := s.withRow (s.rowOf userId a)) (find?_withRow rfl)
    rwa [huser, hid] at hrow
  rw [record, Script.actions_bind (run_get_ok hstored), actions_get, Nat.zero_add, hactive,
    ← hadvance]
  cases hfound : s.progress.find? (userId, a.id) with
  | some row =>
    have hread : (Script.ask AchievementError.store (.findProgress a.id userId)).run handle s =
        (.ok (some row), s) := Script.run_ask_ok (handle_findProgress hfound)
    rw [rowOf_of_find? hfound,
      withRow_eq_self (by rw [(Table.find?_eq_some_iff.1 hfound).2, hfound])]
    refine (Script.actions_bind hread).trans ?_
    rw [actions_findProgress, Nat.zero_add]
    rfl
  | none =>
    have hread : (Script.ask AchievementError.store (.findProgress a.id userId)).run handle s =
        (.ok none, s) := by
      rw [← hfound]
      rfl
    have hrow : s.rowOf userId a = ⟨userId, a.id, 0, a.target⟩ := by
      rw [rowOf, hfound]
      rfl
    refine (Script.actions_bind hread).trans ?_
    rw [actions_findProgress, Nat.zero_add, hrow]
    refine (Script.actions_bind (run_start_absent hfound)).trans ?_
    rw [actions_start hfound, Nat.zero_add]

end Achievements

namespace Call

def actions (userId : UserId) (id : AchievementId) (c : Call) : Nat :=
  c.op.script.actions userId id c.before

/-- A call that exchanges the row of a user for the reward, which makes a balance. -/
structure Completes (userId : UserId) (a : Achievement) (b : Balance) (c : Call) : Prop where
  answer : c.answer = .ok (.outcome (.completed userId a.id a.reward))
  after : c.after = c.before.paid userId a.id b

structure Advances (row : Progress) (c : Call) : Prop where
  answer : c.answer = .ok (.outcome (.advanced row.counted))
  after : c.after = c.before.withRow row.counted

end Call

namespace Operation

variable {s : Memory} {userId : UserId} {a : Achievement} {b : Balance} {today : Date}

theorem call_record (hstored : s.achievements.find? a.id = some a)
    (hactive : a.requirement.statusOn today = .active) :
    (record today userId a.id).call s =
      ⟨record today userId a.id, s,
        Script.relabelResult .achievement .outcome
          ((Achievements.advance (s.rowOf userId a)).run handle
            (s.withRow (s.rowOf userId a))).1,
        ((Achievements.advance (s.rowOf userId a)).run handle
          (s.withRow (s.rowOf userId a))).2⟩ := by
  rw [call, script, Script.run_relabel, Achievements.run_record_rowOf hstored hactive]

theorem actions_call_record (hstored : s.achievements.find? a.id = some a)
    (hactive : a.requirement.statusOn today = .active) :
    ((record today userId a.id).call s).actions userId a.id =
      if (s.rowOf userId a).progress < (s.rowOf userId a).total then 1 else 0 := by
  rw [Call.actions, call, script, Script.actions, Script.exchanges_relabel]
  exact Achievements.actions_record hstored hactive

/-- The recording that finds a row full, or fills it, is paid where the reward fits. -/
theorem completes_call_record (hstored : s.achievements.find? a.id = some a)
    (hactive : a.requirement.statusOn today = .active)
    (hcredit : credited? (s.balanceOf userId a.restaurantId) a.points a.experience = some b)
    (hle : (s.rowOf userId a).progress ≤ (s.rowOf userId a).total)
    (hcomplete : (s.rowOf userId a).next.isComplete = true) :
    ((record today userId a.id).call s).Completes userId a b := by
  rw [call_record hstored hactive, Achievements.run_advance_rowOf hstored hle, if_pos hcomplete,
    hcredit]
  exact ⟨rfl, rfl⟩

theorem advances_call_record (hstored : s.achievements.find? a.id = some a)
    (hactive : a.requirement.statusOn today = .active)
    (hle : (s.rowOf userId a).progress ≤ (s.rowOf userId a).total)
    (hopen : (s.rowOf userId a).progress < (s.rowOf userId a).total)
    (hmore : (s.rowOf userId a).counted.isComplete = false) :
    ((record today userId a.id).call s).Advances (s.rowOf userId a) := by
  rw [call_record hstored hactive, Achievements.run_advance_rowOf hstored hle,
    Progress.next_of_open hopen, hmore]
  exact ⟨rfl, rfl⟩

end Operation

/-- The row of a user for a stored achievement counts up to its target, whether or not it is
there. -/
theorem Logged.rowOf {direct : Prop} {past : List Exchange} {s : Memory} (h : Logged direct past s)
    (hfits : s.created < 2147483647) (userId : UserId) {a : Achievement}
    (hstored : s.achievements.find? a.id = some a) :
    (s.rowOf userId a).total = a.target ∧ 0 ≤ (s.rowOf userId a).progress ∧
      (s.rowOf userId a).progress ≤ (s.rowOf userId a).total := by
  have hcatalog := h.catalog hfits
  have hoffered := hcatalog.stored a.id a hstored
  cases hfound : s.progress.find? (userId, a.id) with
  | none =>
    rw [Memory.rowOf, hfound]
    exact ⟨rfl, Int32.le_refl 0, Int32.le_iff_toInt_le.2
      (Int.le_trans (Int.zero_le_ofNat 1) (hcatalog.sound a hoffered).2.2)⟩
  | some row =>
    obtain ⟨a', hoffered', hid, htotal, hlow, hhigh⟩ :=
      (h.conserved hfits).rowed userId a.id row hfound
    rw [hcatalog.distinct a' hoffered' a hoffered hid] at htotal hhigh
    rw [rowOf_of_find? hfound, Int32.le_iff_toInt_le, Int32.le_iff_toInt_le, htotal]
    exact ⟨rfl, hlow, hhigh⟩

namespace World

/-- Whatever turns were taken, faults included: a recording for an achievement that is active, of
which the reward fits, succeeds. A row that is full is paid for, and no action is counted. A row
that has room, or is not there, counts one action, and is paid for just where it is full then. -/
theorem recording_recovers (turns : List Turn) (hfits : (run turns).store.created < 2147483647)
    (today : Date) (userId : UserId) {a : Achievement} {b : Balance}
    (hstored : (run turns).store.achievements.find? a.id = some a)
    (hactive : a.requirement.statusOn today = .active)
    (hcredit : credited? ((run turns).store.balanceOf userId a.restaurantId) a.points
      a.experience = some b) :
    let row := (run turns).store.rowOf userId a
    let balance := (run turns).store.balanceOf userId a.restaurantId
    let c := (Operation.record today userId a.id).call (run turns).store
    (row.total = a.target ∧ 0 ≤ row.progress ∧ row.progress ≤ row.total) ∧
      (Keyed.key b = (userId, a.restaurantId) ∧
        b.points.toInt = balance.points.toInt + a.points.toInt ∧
        b.experience.toInt = balance.experience.toInt + a.experience.toInt) ∧
      (row.progress = row.total → c.actions userId a.id = 0 ∧ c.Completes userId a b) ∧
      (row.progress < row.total →
        c.actions userId a.id = 1 ∧ row.counted.progress.toInt = row.progress.toInt + 1 ∧
        (row.counted.progress = row.total → c.Completes userId a b) ∧
        (row.counted.progress ≠ row.total → c.Advances row)) := by
  have hlogged : Logged True (run turns).exchanges (run turns).store :=
    logged_run turns fun _ _ _ => trivial
  have hrow := hlogged.rowOf hfits userId hstored
  have hpaid := Operation.completes_call_record hstored hactive hcredit hrow.2.2
  have hkey := (key_of_credited? hcredit).trans (key_balanceOf _ userId a.restaurantId)
  refine ⟨hrow, ⟨hkey, toInt_of_credited? hcredit⟩, ?_, ?_⟩
  · intro hfull
    rw [Operation.actions_call_record hstored hactive, hfull, if_neg Int32.lt_irrefl]
    refine ⟨rfl, hpaid ?_⟩
    rw [Progress.next_of_full hfull]
    exact decide_eq_true (Int32.le_of_eq hfull.symm)
  · intro hopen
    rw [Operation.actions_call_record hstored hactive, if_pos hopen]
    refine ⟨rfl, Progress.toInt_counted hopen, ?_, ?_⟩
    · intro hfull
      apply hpaid
      rw [Progress.next_of_open hopen]
      exact decide_eq_true (Int32.le_of_eq hfull.symm)
    · intro hmore
      apply Operation.advances_call_record hstored hactive hrow.2.2 hopen
      rw [← Bool.not_eq_true]
      intro hcomplete
      apply hmore
      apply Progress.eq_of_isComplete hcomplete
      rw [Int32.le_iff_toInt_le, Progress.toInt_counted hopen]
      exact Int32.lt_iff_toInt_lt.1 hopen

/-- The second of two visits fills the row, and its payment fails. -/
def failedPayment : List Turn :=
  let visit : Turn := .start (.record .newYear ⟨7⟩ ⟨1⟩)
  [.start (.createAchievement ⟨⟨1⟩, "Regular", 5, 10, ⟨.visit 2, .indefinite⟩⟩), .serve 0,
    visit, .serve 1, .serve 1, .serve 1, .serve 1,
    visit, .serve 2, .serve 2, .serve 2, .serve 2, .disturb 2 .absent]

theorem failedPayment_recovers :
    (run failedPayment).store.progress.find? (⟨7⟩, ⟨1⟩) = some ⟨⟨7⟩, ⟨1⟩, 2, 2⟩ ∧
      ((Operation.record .newYear ⟨7⟩ ⟨1⟩).call (run failedPayment).store).actions ⟨7⟩ ⟨1⟩ = 0 ∧
      ((Operation.record .newYear ⟨7⟩ ⟨1⟩).call (run failedPayment).store).Completes ⟨7⟩ regular
        ⟨⟨7⟩, ⟨1⟩, 10, 5⟩ := by
  have hstored : (run failedPayment).store.achievements.find? regular.id = some regular := by decide
  have hfound : (run failedPayment).store.progress.find? (⟨7⟩, ⟨1⟩) = some ⟨⟨7⟩, ⟨1⟩, 2, 2⟩ := by
    decide
  obtain ⟨-, -, hfull, -⟩ := recording_recovers failedPayment (by decide) .newYear ⟨7⟩ hstored rfl
    (b := ⟨⟨7⟩, ⟨1⟩, 10, 5⟩) (by decide)
  exact ⟨hfound, hfull (by decide)⟩

end World

end Loyalty
