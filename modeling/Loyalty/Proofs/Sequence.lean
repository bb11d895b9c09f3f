import Loyalty.Proofs.Catalog
import Loyalty.Proofs.Footprint

/-!
# Calls one after the other

Calls are made of the store in memory, each of which ends before the next one begins. What all the
requests of a script keep, its run keeps, and what all calls keep, a sequence of them keeps. A call
leaves the row of a pair alone that lies outside its footprint, and an achievement that it does not
delete.
-/

namespace Loyalty

/-- The invariant may speak of the exchanges that the script has had so far. -/
theorem Script.Keeps.run {ε α : Type} {asks : List Exchange → Request → Prop}
    {ends : List Exchange → Except ε α → Prop} {P : List Exchange → Memory → Prop}
    {past : List Exchange} {p : Script ε α} {s : Memory} (h : p.Keeps asks ends past)
    (hP : P past s)
    (hstep : ∀ past s r, P past s → asks past r →
      P (⟨r, (Memory.handle r s).1⟩ :: past) (Memory.handle r s).2) :
    ∃ past', P past' (p.run Memory.handle s).2 ∧ ends past' (p.run Memory.handle s).1 := by
  induction p generalizing past s with
  | done a => exact ⟨past, hP, h⟩
  | fail e => exact ⟨past, hP, h⟩
  | call r next ih => exact ih _ (h.2 _ (Memory.onKey_handle s r)) (hstep past s r hP h.1)

/-- A call, what it came to, and the stores before and after it. -/
structure Call where
  op : Operation
  before : Memory
  answer : Except Refusal Reply
  after : Memory

def Operation.call (op : Operation) (s : Memory) : Call :=
  ⟨op, s, (op.script.run Memory.handle s).1, (op.script.run Memory.handle s).2⟩

namespace Memory

def calls : List Operation → Memory → List Call
  | [], _ => []
  | op :: ops, s => op.call s :: calls ops (op.call s).after

def serve : List Operation → Memory → Memory
  | [], s => s
  | op :: ops, s => serve ops (op.call s).after

theorem serve_append (first later : List Operation) (s : Memory) :
    serve (first ++ later) s = serve later (serve first s) := by
  induction first generalizing s with
  | nil => rfl
  | cons op first ih => exact ih (op.call s).after

theorem calls_append (first later : List Operation) (s : Memory) :
    calls (first ++ later) s = calls first s ++ calls later (serve first s) := by
  induction first generalizing s with
  | nil => rfl
  | cons op first ih => exact congrArg (op.call s :: ·) (ih (op.call s).after)

theorem exists_call_of_split {ops : List Operation} {s : Memory} {before later : List Call}
    {c : Call} (h : calls ops s = before ++ c :: later) : ∃ s', c = c.op.call s' := by
  induction ops generalizing s before with
  | nil => simp [calls] at h
  | cons op ops ih =>
    cases before with
    | nil => exact ⟨s, (List.cons.inj h).1 ▸ rfl⟩
    | cons first before => exact ih (List.cons.inj h).2

theorem created_le_run {ε α : Type} (p : Script ε α) (s : Memory) :
    s.created ≤ (p.run handle s).2.created := by
  induction p generalizing s with
  | done a => exact Nat.le_refl _
  | fail e => exact Nat.le_refl _
  | call r next ih => exact Nat.le_trans (change_handle s r).created_le (ih _ _)

theorem created_le_call (op : Operation) (s : Memory) : s.created ≤ (op.call s).after.created :=
  created_le_run op.script s

theorem created_le_serve (ops : List Operation) (s : Memory) :
    s.created ≤ (serve ops s).created := by
  induction ops generalizing s with
  | nil => exact Nat.le_refl _
  | cons op ops ih => exact Nat.le_trans (created_le_call op s) (ih _)

theorem serve_invariant {P : Memory → Prop}
    (hcall : ∀ (op : Operation) (s : Memory), P s → P (op.call s).after) (ops : List Operation)
    {s : Memory} (hP : P s) : P (serve ops s) := by
  induction ops generalizing s with
  | nil => exact hP
  | cons op ops ih => exact ih (hcall op s hP)

/-- What every call that is allowed keeps, a sequence of them keeps, as long as identifiers do not
run out. -/
theorem serve_induction {P : Memory → Prop} {allowed : Operation → Prop}
    (hcall : ∀ (op : Operation) (s : Memory), allowed op → P s →
      (op.call s).after.created < 2147483647 → P (op.call s).after)
    (ops : List Operation) {s : Memory} (hops : ∀ op ∈ ops, allowed op) (hP : P s)
    (hfits : (serve ops s).created < 2147483647) : P (serve ops s) := by
  induction ops generalizing s with
  | nil => exact hP
  | cons op ops ih =>
    apply ih (fun op' hop' => hops op' (List.mem_cons_of_mem op hop')) _ hfits
    apply hcall op s (hops op List.mem_cons_self) hP
    exact Nat.lt_of_le_of_lt (created_le_serve ops _) hfits

namespace Change

variable {s s' : Memory} {r : Request} {answer : Except StoreError r.Answer}

theorem row_of_outside (h : s.Change ⟨r, answer⟩ s') {userId : UserId}
    {achievementId : AchievementId} (hrow : r.rowKey? ≠ some (userId, achievementId))
    (hgone : r.withdraws? ≠ some achievementId) :
    s'.progress.find? (userId, achievementId) = s.progress.find? (userId, achievementId) := by
  have hstep := h.row userId achievementId
  generalize s.progress.find? (userId, achievementId) = before at hstep
  generalize s'.progress.find? (userId, achievementId) = after at hstep
  cases hstep with
  | counted _ hx | started hx =>
    cases hx
    exact absurd rfl hrow
  | paid huser hachievement _ hx =>
    cases hx
    exact absurd (congrArg some (Prod.ext huser hachievement)) hrow
  | deleted hx =>
    cases hx
    exact absurd rfl hgone
  | kept => rfl

theorem achievement_stays (h : s.Change ⟨r, answer⟩ s') {id : AchievementId}
    {achievement : Achievement} (hfound : s.achievements.find? id = some achievement)
    (hnew : id ≠ ⟨s.nextId⟩) :
    s'.achievements.find? id = some achievement ∨
      r.withdraws? = some id ∧ ∀ userId : UserId, s'.progress.find? (userId, id) = none := by
  cases h with
  | @createAchievement input created hcreated =>
    subst hcreated
    rw [Table.find?_put_of_ne fun hkey => hnew hkey.symm]
    exact Or.inl hfound
  | @deleteAchievement gone _ _ =>
    by_cases hid : gone = id
    · subst hid
      exact Or.inr ⟨rfl, fun userId => Progress.find?_without s.progress userId gone⟩
    · rw [Table.find?_erase_of_ne hid]
      exact Or.inl hfound
  | _ => exact Or.inl hfound

end Change

theorem achievement_of_call {op : Operation} {s : Memory} {achievement : Achievement}
    (hgone : op.withdraws? ≠ some achievement.id)
    (hfound : s.achievements.find? achievement.id = some achievement)
    (hnumber : achievement.id.value.toInt ≤ s.created)
    (hfits : (op.call s).after.created < 2147483647) :
    (op.call s).after.achievements.find? achievement.id = some achievement := by
  have hrun := op.keeps_within.run (s := s) (P := fun _ s' => s.created ≤ s'.created ∧
    (s'.created < 2147483647 → s'.achievements.find? achievement.id = some achievement))
    ⟨Nat.le_refl _, fun _ => hfound⟩ ?_
  · obtain ⟨_, ⟨-, hafter⟩, -⟩ := hrun
    exact hafter hfits
  · rintro _ s₁ r ⟨hgrows, hs₁⟩ ⟨-, hdeletes, -⟩
    have hchange := change_handle s₁ r
    refine ⟨Nat.le_trans hgrows hchange.created_le, fun hfits₁ => ?_⟩
    have hroom := Nat.lt_of_le_of_lt hchange.created_le hfits₁
    have hnew : achievement.id ≠ ⟨s₁.nextId⟩ := by
      intro hid
      rw [hid, toInt_nextId hroom] at hnumber
      omega
    apply (hchange.achievement_stays (hs₁ hroom) hnew).resolve_right
    rintro ⟨hdeleted, -⟩
    rcases hdeletes with hnone | hsame
    · rw [hnone] at hdeleted
      cases hdeleted
    · exact hgone (hsame.symm.trans hdeleted)

/-- A call outside whose footprint a row lies leaves it as it is. -/
theorem row_of_call {op : Operation} {s : Memory} {userId : UserId} {achievementId : AchievementId}
    (hrow : op.rowKey? ≠ some (userId, achievementId))
    (hgone : op.withdraws? ≠ some achievementId) :
    (op.call s).after.progress.find? (userId, achievementId) =
      s.progress.find? (userId, achievementId) := by
  have hrun := op.keeps_within.run (s := s) (P := fun _ s' =>
    s'.progress.find? (userId, achievementId) = s.progress.find? (userId, achievementId)) rfl ?_
  · obtain ⟨_, hafter, -⟩ := hrun
    exact hafter
  · rintro _ s₁ r hs₁ ⟨hkey, hdeletes, -⟩
    refine ((change_handle s₁ r).row_of_outside ?_ ?_).trans hs₁
    · rcases hkey with hkey | hkey <;> rw [hkey]
      · exact nofun
      · exact hrow
    · rcases hdeletes with hdeletes | hdeletes <;> rw [hdeletes]
      · exact nofun
      · exact hgone

end Memory

end Loyalty
