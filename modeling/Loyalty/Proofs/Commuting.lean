import Loyalty.Proofs.Integrity
import Loyalty.Proofs.Revisions

/-!
# Different users do not meet

What is done on behalf of a user reads the coupons and the achievements, and reads and writes the
progress rows and the balances of this user. It is answered alike by all stores that agree on these,
and leaves everything else as it is. So the operations of two users can be made in either order.
-/

namespace Loyalty

namespace Table

variable {ρ κ : Type} [Ranked κ] [Keyed ρ κ] {t u : Table ρ} {k : κ}

theorem find?_put_congr (h : t.find? k = u.find? k) (r : ρ) :
    (t.put r).find? k = (u.put r).find? k := by
  by_cases hk : Keyed.key r = k
  · rw [find?_put_of_eq hk, find?_put_of_eq hk]
  · rw [find?_put_of_ne hk, find?_put_of_ne hk, h]

theorem find?_erase_congr (h : t.find? k = u.find? k) (j : κ) :
    (t.erase j).find? k = (u.erase j).find? k := by
  by_cases hk : j = k
  · rw [hk, find?_erase_self, find?_erase_self]
  · rw [find?_erase_of_ne hk, find?_erase_of_ne hk, h]

end Table

def Request.OnBehalf (userId : UserId) (r : Request) : Prop :=
  (∃ achievementId, r.OnPair userId achievementId) ∨ r.OnPurchase userId

namespace Request.OnBehalf

variable {r : Request} {userId other : UserId}

theorem quiet (h : r.OnBehalf userId) :
    r.creates = false ∧ r.revises = false ∧ r.withdraws? = none := by
  rcases h with ⟨_, hr⟩ | hr <;> cases hr <;> exact ⟨rfl, rfl, rfl⟩

theorem rowKey?_ne (h : r.OnBehalf userId) (hne : other ≠ userId) (achievementId : AchievementId) :
    r.rowKey? ≠ some (other, achievementId) := by
  rcases h with ⟨_, hr⟩ | hr
  · cases hr with
    | complete huser => simp [rowKey?, huser, hne.symm]
    | _ => simp [rowKey?, hne.symm]
  · cases hr <;> simp [rowKey?]

theorem balance_kept (h : r.OnBehalf userId) (hne : other ≠ userId) {restaurantId : RestaurantId}
    {answer : Except StoreError r.Answer} {before after : Option Balance}
    (hstep : Memory.BalanceStep other restaurantId ⟨r, answer⟩ before after) : after = before := by
  cases hstep with
  | credited _ hx =>
    cases hx
    rcases h with ⟨_, hr⟩ | hr <;> cases hr
  | paid huser _ _ hx =>
    cases hx
    rcases h with ⟨_, hr⟩ | hr
    · cases hr with
      | complete huser' => exact absurd (huser.symm.trans huser') hne
    · cases hr
  | debited _ _ hx =>
    cases hx
    rcases h with ⟨_, hr⟩ | hr <;> cases hr
    exact absurd rfl hne
  | kept => rfl

end Request.OnBehalf

def Operation.user? : Operation → Option UserId
  | .redeem _ _ userId _ => some userId
  | .advance row => some row.userId
  | .complete row => some row.userId
  | .record _ userId _ => some userId
  | _ => none

theorem Operation.keeps_behalf {op : Operation} {userId : UserId} (h : op.user? = some userId) :
    op.script.Keeps (fun _ r => r.OnBehalf userId) (fun _ _ => True) [] := by
  cases op with
  | redeem curve today userId' couponId =>
    cases h
    rw [script, Script.keeps_relabel]
    exact (Coupons.keeps_purchase curve today userId couponId).mono (fun _ _ => Or.inr)
      fun _ _ h => h
  | advance row =>
    cases h
    rw [script, Script.keeps_relabel]
    exact (Achievements.keeps_pair_advance row).mono (fun _ _ hr => Or.inl ⟨_, hr⟩) fun _ _ h => h
  | complete row =>
    cases h
    rw [script, Script.keeps_relabel]
    exact (Achievements.keeps_pair_complete row).mono (fun _ _ hr => Or.inl ⟨_, hr⟩) fun _ _ h => h
  | record today userId' achievementId =>
    cases h
    rw [script, Script.keeps_relabel]
    exact (Achievements.keeps_pair_record userId achievementId today).mono
      (fun _ _ hr => Or.inl ⟨_, hr⟩) fun _ _ h => h
  | _ => cases h

namespace Memory

/-- Two stores look the same to a user. -/
structure SameTo (userId : UserId) (s t : Memory) : Prop where
  coupons : s.coupons = t.coupons
  achievements : s.achievements = t.achievements
  progress : ∀ achievementId : AchievementId,
    s.progress.find? (userId, achievementId) = t.progress.find? (userId, achievementId)
  balances : ∀ restaurantId : RestaurantId,
    s.balances.find? (userId, restaurantId) = t.balances.find? (userId, restaurantId)

/-- Two stores differ in the progress rows and the balances of a user only. -/
structure OnlyFor (userId : UserId) (s t : Memory) : Prop where
  created : t.created = s.created
  records : t.records = s.records
  progress : ∀ (other : UserId) (achievementId : AchievementId), other ≠ userId →
    t.progress.find? (other, achievementId) = s.progress.find? (other, achievementId)
  balances : ∀ (other : UserId) (restaurantId : RestaurantId), other ≠ userId →
    t.balances.find? (other, restaurantId) = s.balances.find? (other, restaurantId)

variable {s t : Memory} {userId : UserId} {r : Request}

theorem OnlyFor.refl (userId : UserId) (s : Memory) : OnlyFor userId s s :=
  ⟨rfl, rfl, fun _ _ _ => rfl, fun _ _ _ => rfl⟩

theorem OnlyFor.trans {s' : Memory} (h : OnlyFor userId s t) (h' : OnlyFor userId t s') :
    OnlyFor userId s s' where
  created := h'.created.trans h.created
  records := h'.records.trans h.records
  progress other achievementId hne :=
    (h'.progress other achievementId hne).trans (h.progress other achievementId hne)
  balances other restaurantId hne :=
    (h'.balances other restaurantId hne).trans (h.balances other restaurantId hne)

/-- What is done on behalf of one user does not show to another. -/
theorem OnlyFor.sameTo {other : UserId} (h : OnlyFor userId s t) (hne : other ≠ userId) :
    SameTo other t s where
  coupons := congrArg (fun records => records.2.2.1) h.records
  achievements := congrArg (fun records => records.2.2.2) h.records
  progress achievementId := h.progress other achievementId hne
  balances restaurantId := h.balances other restaurantId hne

namespace SameTo

theorem balanceOf_eq (h : SameTo userId s t) (restaurantId : RestaurantId) :
    s.balanceOf userId restaurantId = t.balanceOf userId restaurantId := by
  rw [balanceOf, balanceOf, h.balances]

theorem put_progress (h : SameTo userId s t) (row : Progress) :
    SameTo userId { s with progress := s.progress.put row }
      { t with progress := t.progress.put row } :=
  { h with progress := fun achievementId => Table.find?_put_congr (h.progress achievementId) row }

theorem put_balance (h : SameTo userId s t) (b : Balance) :
    SameTo userId { s with balances := s.balances.put b } { t with balances := t.balances.put b } :=
  { h with balances := fun restaurantId => Table.find?_put_congr (h.balances restaurantId) b }

theorem erase_progress (h : SameTo userId s t) (key : UserId × AchievementId) :
    SameTo userId { s with progress := s.progress.erase key }
      { t with progress := t.progress.erase key } :=
  { h with progress := fun achievementId => Table.find?_erase_congr (h.progress achievementId) key }

def Agree (userId : UserId) (r : Request) (s t : Memory) : Prop :=
  (handle r s).1 = (handle r t).1 ∧ SameTo userId (handle r s).2 (handle r t).2

theorem agree_pair (h : SameTo userId s t) {achievementId : AchievementId}
    (hr : r.OnPair userId achievementId) : Agree userId r s t := by
  unfold Agree
  cases hr with
  | findAchievement =>
    simp only [handle, h.achievements, true_and]
    exact h
  | findProgress =>
    simp only [handle, h.progress, true_and]
    exact h
  | @createProgress total =>
    simp only [handle, createProgress, h.progress]
    cases t.progress.find? (userId, achievementId) with
    | none => exact ⟨rfl, h.put_progress _⟩
    | some row => exact ⟨rfl, h⟩
  | increment =>
    simp only [handle, increment, h.progress]
    cases t.progress.find? (userId, achievementId) with
    | none => exact ⟨rfl, h⟩
    | some row =>
      dsimp only
      split
      · exact ⟨rfl, h.put_progress _⟩
      · exact ⟨rfl, h⟩
  | @complete row reward huser hachievement =>
    subst huser hachievement
    simp only [handle, complete, credit, h.progress, h.balanceOf_eq]
    cases t.progress.find? (row.userId, row.achievementId) with
    | none => exact ⟨rfl, h⟩
    | some stored =>
      dsimp only
      split
      · cases credited? (t.balanceOf row.userId reward.restaurantId) reward.points
          reward.experience with
        | none => exact ⟨rfl, h⟩
        | some b => exact ⟨rfl, (h.put_balance b).erase_progress _⟩
      · exact ⟨rfl, h⟩

theorem agree_purchase (h : SameTo userId s t) (hr : r.OnPurchase userId) :
    Agree userId r s t := by
  unfold Agree
  cases hr with
  | findCoupon =>
    simp only [handle, h.coupons, true_and]
    exact h
  | findBalance =>
    simp only [handle, h.balances, true_and]
    exact h
  | @debit restaurantId points =>
    simp only [handle, debit, h.balances]
    cases t.balances.find? (userId, restaurantId) with
    | none => exact ⟨rfl, h⟩
    | some b =>
      dsimp only
      split
      · exact ⟨rfl, h⟩
      · cases b.points.sub? points with
        | none => exact ⟨rfl, h⟩
        | some rest => exact ⟨rfl, h.put_balance _⟩

theorem agree (h : SameTo userId s t) (hr : r.OnBehalf userId) : Agree userId r s t := by
  rcases hr with ⟨achievementId, hr⟩ | hr
  · exact h.agree_pair hr
  · exact h.agree_purchase hr

/-- A script that keeps to a user is answered alike by stores that look the same to the user. -/
theorem run {ε α : Type} {p : Script ε α} {past : List Exchange}
    {ends : List Exchange → Except ε α → Prop} (h : SameTo userId s t)
    (hp : p.Keeps (fun _ r => r.OnBehalf userId) ends past) :
    (p.run handle s).1 = (p.run handle t).1 ∧
      SameTo userId (p.run handle s).2 (p.run handle t).2 := by
  induction p generalizing past s t with
  | done a => exact ⟨rfl, h⟩
  | fail e => exact ⟨rfl, h⟩
  | call r next ih =>
    obtain ⟨hanswer, hafter⟩ := h.agree hp.1
    rw [Script.run_call, Script.run_call, ← hanswer]
    exact ih _ hafter (hp.2 _ (onKey_handle s r))

end SameTo

namespace OnlyFor

theorem of_request (hr : r.OnBehalf userId) (s : Memory) : OnlyFor userId s (handle r s).2 := by
  obtain ⟨hcreates, hrevises, hwithdraws⟩ := hr.quiet
  have hchange := change_handle s r
  refine ⟨created_of_handle hcreates, records_of_handle s hrevises, ?_, ?_⟩
  · intro other achievementId hne
    refine hchange.row_of_outside (hr.rowKey?_ne hne achievementId) ?_
    rw [hwithdraws]
    exact nofun
  · intro other restaurantId hne
    exact hr.balance_kept hne (hchange.balance other restaurantId)

/-- A script that keeps to a user leaves everything else as it is. -/
theorem of_script {ε α : Type} {p : Script ε α} {past : List Exchange}
    {ends : List Exchange → Except ε α → Prop}
    (hp : p.Keeps (fun _ r => r.OnBehalf userId) ends past) (s : Memory) :
    OnlyFor userId s (p.run handle s).2 := by
  obtain ⟨_, hafter, -⟩ := hp.run (P := fun _ s' => OnlyFor userId s s') (.refl userId s)
    fun _ s' r hs' hr => hs'.trans (of_request hr s')
  exact hafter

end OnlyFor

theorem ext_tables (hcreated : s.created = t.created) (hrecords : s.records = t.records)
    (hprogress : ∀ key, s.progress.find? key = t.progress.find? key)
    (hbalances : ∀ key, s.balances.find? key = t.balances.find? key) : s = t := by
  obtain ⟨_, _, _, _, _, _, _⟩ := s
  obtain ⟨_, _, _, _, _, _, _⟩ := t
  cases hcreated
  cases hrecords
  cases Table.ext_find? hprogress
  cases Table.ext_find? hbalances
  rfl

section Commuting

variable {u v : UserId}

/-- Two users change a value each, one after the other. The order does not matter where neither
change depends on the other one. -/
theorem eq_of_changes {β : Type} {f f₁ f₂ g₁ g₂ : UserId → β} (hne : u ≠ v)
    (h₁ : ∀ w, w ≠ u → f₁ w = f w) (h₁₂ : ∀ w, w ≠ v → g₁ w = f₁ w)
    (h₂ : ∀ w, w ≠ v → f₂ w = f w) (h₂₁ : ∀ w, w ≠ u → g₂ w = f₂ w)
    (hu : g₂ u = f₁ u) (hv : g₁ v = f₂ v) (w : UserId) : g₁ w = g₂ w := by
  by_cases hwu : w = u
  · rw [hwu, h₁₂ u hne, hu]
  · rw [h₂₁ w hwu]
    by_cases hwv : w = v
    · rw [hwv, hv]
    · rw [h₁₂ w hwv, h₁ w hwu, h₂ w hwv]

theorem eq_of_onlyFor {s s₁ s₂ t₁ t₂ : Memory} (hne : u ≠ v) (h₁ : OnlyFor u s s₁)
    (h₁₂ : OnlyFor v s₁ t₁) (h₂ : OnlyFor v s s₂) (h₂₁ : OnlyFor u s₂ t₂) (hu : SameTo u t₂ s₁)
    (hv : SameTo v t₁ s₂) : t₁ = t₂ := by
  apply ext_tables
  · rw [h₁₂.created, h₁.created, h₂₁.created, h₂.created]
  · rw [h₁₂.records, h₁.records, h₂₁.records, h₂.records]
  · rintro ⟨w, id⟩
    exact eq_of_changes (f := fun w => s.progress.find? (w, id)) hne (fun w => h₁.progress w id)
      (fun w => h₁₂.progress w id) (fun w => h₂.progress w id) (fun w => h₂₁.progress w id)
      (hu.progress id) (hv.progress id) w
  · rintro ⟨w, id⟩
    exact eq_of_changes (f := fun w => s.balances.find? (w, id)) hne (fun w => h₁.balances w id)
      (fun w => h₁₂.balances w id) (fun w => h₂.balances w id) (fun w => h₂₁.balances w id)
      (hu.balances id) (hv.balances id) w

/-- Whatever is stored: two operations on behalf of different users are answered the same and leave
the same store, whichever of them is made first. -/
theorem users_commute {op op' : Operation} (hop : op.user? = some u) (hop' : op'.user? = some v)
    (hne : u ≠ v) (s : Memory) :
    (op.call (op'.call s).after).answer = (op.call s).answer ∧
      (op'.call (op.call s).after).answer = (op'.call s).answer ∧
      (op'.call (op.call s).after).after = (op.call (op'.call s).after).after := by
  have hkeeps := op.keeps_behalf hop
  have hkeeps' := op'.keeps_behalf hop'
  have hfirst : OnlyFor u s (op.call s).after := .of_script hkeeps s
  have hfirst' : OnlyFor v s (op'.call s).after := .of_script hkeeps' s
  obtain ⟨hanswer, hu⟩ := (hfirst'.sameTo hne).run hkeeps
  obtain ⟨hanswer', hv⟩ := (hfirst.sameTo hne.symm).run hkeeps'
  refine ⟨hanswer, hanswer', ?_⟩
  exact eq_of_onlyFor hne hfirst (.of_script hkeeps' _) hfirst' (.of_script hkeeps _) hu hv

def twoGuests : Memory :=
  serve [.createAchievement ⟨⟨1⟩, "Welcome", 120, 10, ⟨.visit 1, .indefinite⟩⟩,
    .createCoupon ⟨⟨1⟩, "Tea", "One cup", 6, 1, none, none, true⟩,
    .record .newYear ⟨7⟩ ⟨1⟩] empty

theorem twoGuests_commute :
    ((Operation.redeem .standard .newYear ⟨7⟩ ⟨2⟩).call
        ((Operation.record .newYear ⟨8⟩ ⟨1⟩).call twoGuests).after).answer =
      .ok (.balance ⟨⟨7⟩, ⟨1⟩, 4, 120⟩) ∧
    ((Operation.record .newYear ⟨8⟩ ⟨1⟩).call
        ((Operation.redeem .standard .newYear ⟨7⟩ ⟨2⟩).call twoGuests).after).answer =
      .ok (.outcome (.completed ⟨8⟩ ⟨1⟩ ⟨⟨1⟩, 10, 120⟩)) := by
  have hspends : (Operation.redeem .standard .newYear ⟨7⟩ ⟨2⟩).user? = some ⟨7⟩ := rfl
  have hearns : (Operation.record .newYear ⟨8⟩ ⟨1⟩).user? = some ⟨8⟩ := rfl
  have hne : (⟨7⟩ : UserId) ≠ ⟨8⟩ := by decide
  obtain ⟨hredeem, hrecord, -⟩ := users_commute hspends hearns hne twoGuests
  rw [hredeem, hrecord]
  decide

end Commuting

end Memory

end Loyalty
