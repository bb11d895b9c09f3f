import Loyalty.Proofs.Reach

/-!
# Requests that leave the users alone

All requests but the five about users work on the other tables: they neither look at the users nor
change them. So a script that makes no others runs the same beside any table of users.
-/

namespace Loyalty

namespace Memory

def withUsers (s : Memory) (users : Table User) : Memory := { s with users := users }

def besideUsers {α : Type} (users : Table User) (result : α × Memory) : α × Memory :=
  (result.1, result.2.withUsers users)

variable (s : Memory) (users : Table User)

theorem markDeleted_withUsers (id : CouponId) :
    (s.withUsers users).markDeleted id = besideUsers users (s.markDeleted id) := by
  simp only [markDeleted, withUsers]
  split <;> rfl

theorem credit_withUsers (userId : UserId) (restaurantId : RestaurantId)
    (points experience : Amount) :
    (s.withUsers users).credit userId restaurantId points experience =
      besideUsers users (s.credit userId restaurantId points experience) := by
  simp only [credit, balanceOf, withUsers]
  split <;> rfl

theorem debit_withUsers (userId : UserId) (restaurantId : RestaurantId) (points : Amount) :
    (s.withUsers users).debit userId restaurantId points =
      besideUsers users (s.debit userId restaurantId points) := by
  simp only [debit, withUsers]
  split
  · rfl
  · split
    · rfl
    · split <;> rfl

theorem deleteAchievement_withUsers (id : AchievementId) :
    (s.withUsers users).deleteAchievement id = besideUsers users (s.deleteAchievement id) := by
  simp only [deleteAchievement, withUsers]
  split <;> rfl

theorem createProgress_withUsers (achievementId : AchievementId) (userId : UserId)
    (total : Amount) :
    (s.withUsers users).createProgress achievementId userId total =
      besideUsers users (s.createProgress achievementId userId total) := by
  simp only [createProgress, withUsers]
  split <;> rfl

theorem increment_withUsers (achievementId : AchievementId) (userId : UserId) :
    (s.withUsers users).increment achievementId userId =
      besideUsers users (s.increment achievementId userId) := by
  simp only [increment, withUsers]
  split
  · rfl
  · split <;> rfl

theorem complete_withUsers (row : Progress) (reward : Reward) :
    (s.withUsers users).complete row reward = besideUsers users (s.complete row reward) := by
  have hprogress : (s.withUsers users).progress = s.progress := rfl
  cases hfound : s.progress.find? (row.userId, row.achievementId) with
  | none =>
    simp only [complete, hprogress, hfound]
    rfl
  | some stored =>
    by_cases hfull : stored.progress = stored.total
    · simp only [complete, hprogress, hfound, if_pos hfull, credit_withUsers]
      generalize s.credit row.userId reward.restaurantId reward.points reward.experience = result
      obtain ⟨e | balance, s'⟩ := result <;> rfl
    · simp only [complete, hprogress, hfound, if_neg hfull]
      rfl

/-- Requests that are not about users. -/
theorem handle_withUsers {r : Request} (h : r.onUsers = false) :
    handle r (s.withUsers users) = besideUsers users (handle r s) := by
  cases r with
  | createUser | findUser | findUserByEmail | findUserByCredentials | setAccountType => cases h
  | markDeleted id => exact congrArg answered (s.markDeleted_withUsers users id)
  | credit userId restaurantId points experience =>
    exact s.credit_withUsers users userId restaurantId points experience
  | debit userId restaurantId points => exact s.debit_withUsers users userId restaurantId points
  | deleteAchievement id => exact congrArg answered (s.deleteAchievement_withUsers users id)
  | createProgress achievementId userId total =>
    exact s.createProgress_withUsers users achievementId userId total
  | increment achievementId userId =>
    exact congrArg answered (s.increment_withUsers users achievementId userId)
  | complete row reward => exact s.complete_withUsers users row reward
  | _ => rfl

end Memory

namespace Script

variable {ε δ α β : Type}

/-- Whatever it is answered, a script makes no request about users. -/
def Unaware (p : Script ε α) : Prop :=
  ∀ past, p.Keeps (fun _ r => r.onUsers = false) (fun _ _ => True) past

theorem Keeps.run_withUsers {ends : List Exchange → Except ε α → Prop} {past : List Exchange}
    {p : Script ε α} (h : p.Keeps (fun _ r => r.onUsers = false) ends past) (s : Memory)
    (users : Table User) :
    p.run Memory.handle (s.withUsers users) =
      Memory.besideUsers users (p.run Memory.handle s) := by
  induction p generalizing past s with
  | done a => rfl
  | fail e => rfl
  | call r next ih =>
    rw [run_call, run_call, s.handle_withUsers users h.1]
    exact ih _ (h.2 _ (Memory.onKey_handle s r)) (Memory.handle r s).2

/-- A script that makes no request about users runs the same beside any users. -/
theorem Unaware.run {p : Script ε α} (h : p.Unaware) (s : Memory) (users : Table User) :
    p.run Memory.handle (s.withUsers users) =
      Memory.besideUsers users (p.run Memory.handle s) := (h []).run_withUsers s users

theorem Unaware.users {p : Script ε α} (h : p.Unaware) (s : Memory) :
    (p.run Memory.handle s).2.users = s.users :=
  congrArg (fun result => result.2.users) (h.run s s.users)

end Script

namespace Operation

/-- All operations but those on accounts leave the users alone. -/
theorem unaware_script {op : Operation} (h : op.onAccounts = false) : op.script.Unaware := by
  refine op.onlyAsks_script.mono fun r hr => ?_
  rw [← Bool.not_eq_true]
  intro husers
  rw [hr.users husers] at h
  cases h

end Operation

end Loyalty
