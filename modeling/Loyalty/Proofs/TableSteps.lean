import Loyalty.Proofs.Change

/-!
# Steps of single rows

What one exchange does to the progress row of a pair, to the balance of a pair, and to the
achievement and the coupon under an identifier.
-/

namespace Loyalty

theorem Table.find?_put_of_eq {ρ κ : Type} [Ranked κ] [Keyed ρ κ] {t : Table ρ} {r : ρ} {k : κ}
    (h : Keyed.key r = k) : (t.put r).find? k = some r := by
  rw [← h, find?_put_self]

theorem Amount.toInt_succ {a : Amount} (h : a.toInt < 2147483647) :
    (a + 1).toInt = a.toInt + 1 := by
  have hbounds := bounds a
  rw [Int32.toInt_add]
  apply Int.bmod_eq_of_le <;> simp <;> omega

/-- A row that is not full can hold one more action. -/
theorem Progress.toInt_counted {row : Progress} (h : row.progress < row.total) :
    row.counted.progress.toInt = row.progress.toInt + 1 := by
  have htotal := Amount.bounds row.total
  rw [Int32.lt_iff_toInt_lt] at h
  exact Amount.toInt_succ (by omega)

/-- Without the rows of an achievement no pair has a row of it. -/
theorem Progress.find?_without (t : Table Progress) (userId : UserId) (id : AchievementId) :
    (t.filter fun p => p.achievementId ≠ id).find? (userId, id) = none := by
  rw [Table.find?_eq_none_iff]
  rintro p hp ⟨⟩
  simpa using (List.mem_filter.1 hp).2

namespace Exchange

def counts (userId : UserId) (achievementId : AchievementId) (x : Exchange) : Bool :=
  x.counted? == some (userId, achievementId)

def pays (userId : UserId) (achievementId : AchievementId) (x : Exchange) : Bool :=
  x.payment?.any fun p => p.userId = userId ∧ p.achievementId = achievementId

variable {x : Exchange}

theorem payment?_eq_some_iff {p : Payment} :
    x.payment? = some p ↔ ∃ row reward, x = ⟨.complete row reward, .ok true⟩ ∧
      p = ⟨row.userId, row.achievementId, reward⟩ := by
  constructor
  · intro h
    unfold payment? at h
    split at h
    · cases h
      exact ⟨_, _, rfl, rfl⟩
    · cases h
  · rintro ⟨row, reward, rfl, rfl⟩
    rfl

theorem purchase?_eq_some_iff {p : Purchase} :
    x.purchase? = some p ↔
      ∃ balance, x = ⟨.debit p.userId p.restaurantId p.points, .ok (some balance)⟩ := by
  constructor
  · intro h
    unfold purchase? at h
    split at h
    · cases h
      exact ⟨_, rfl⟩
    · cases h
  · rintro ⟨balance, rfl⟩
    rfl

theorem counted?_eq_some_iff {key : UserId × AchievementId} :
    x.counted? = some key ↔ ∃ row, x = ⟨.increment key.2 key.1, .ok (some row)⟩ := by
  constructor
  · intro h
    unfold counted? at h
    split at h
    · cases h
      exact ⟨_, rfl⟩
    · cases h
  · rintro ⟨row, rfl⟩
    rfl

theorem counts_eq_true_iff {userId : UserId} {achievementId : AchievementId} :
    x.counts userId achievementId = true ↔
      ∃ row, x = ⟨.increment achievementId userId, .ok (some row)⟩ := by
  rw [counts, beq_iff_eq, counted?_eq_some_iff]

theorem pays_eq_true_iff {userId : UserId} {achievementId : AchievementId} :
    x.pays userId achievementId = true ↔
      ∃ row reward, x = ⟨.complete row reward, .ok true⟩ ∧ row.userId = userId ∧
        row.achievementId = achievementId := by
  rw [pays, Option.any_eq_true]
  constructor
  · rintro ⟨p, hp, hkey⟩
    obtain ⟨row, reward, rfl, rfl⟩ := payment?_eq_some_iff.1 hp
    exact ⟨row, reward, rfl, of_decide_eq_true hkey⟩
  · rintro ⟨row, reward, rfl, hkey⟩
    exact ⟨⟨row.userId, row.achievementId, reward⟩, rfl, decide_eq_true hkey⟩

end Exchange

namespace Memory

variable {s s' : Memory} {x : Exchange}

/-- What an exchange does to the progress row of a pair. -/
inductive RowStep (userId : UserId) (achievementId : AchievementId) (x : Exchange) :
    Option Progress → Option Progress → Prop
  | counted {row : Progress} (hopen : row.progress < row.total)
      (hx : x = ⟨.increment achievementId userId, .ok (some row.counted)⟩) :
      RowStep userId achievementId x (some row) (some row.counted)
  | paid {row stored : Progress} {reward : Reward} (huser : row.userId = userId)
      (hachievement : row.achievementId = achievementId) (hfull : stored.progress = stored.total)
      (hx : x = ⟨.complete row reward, .ok true⟩) :
      RowStep userId achievementId x (some stored) none
  | started {total : Amount}
      (hx : x = ⟨.createProgress achievementId userId total,
        .ok ⟨userId, achievementId, 0, total⟩⟩) :
      RowStep userId achievementId x none (some ⟨userId, achievementId, 0, total⟩)
  | deleted {row : Option Progress} (hx : x = ⟨.deleteAchievement achievementId, .ok true⟩) :
      RowStep userId achievementId x row none
  | kept {row : Option Progress} (hcounts : x.counts userId achievementId = false)
      (hpays : x.pays userId achievementId = false) :
      RowStep userId achievementId x row row

theorem Change.row (h : s.Change x s') (userId : UserId) (achievementId : AchievementId) :
    RowStep userId achievementId x (s.progress.find? (userId, achievementId))
      (s'.progress.find? (userId, achievementId)) := by
  cases h with
  | nothing h =>
    apply RowStep.kept
    · rw [← Bool.not_eq_true, Exchange.counts_eq_true_iff]
      rintro ⟨row, rfl⟩
      cases h
    · rw [← Bool.not_eq_true, Exchange.pays_eq_true_iff]
      rintro ⟨row, reward, rfl, -⟩
      cases h
  | @deleteAchievement id achievement hfound =>
    rw [Table.find?_filter]
    cases hrow : s.progress.find? (userId, achievementId) with
    | none => exact .kept rfl rfl
    | some row =>
      have hkey : row.achievementId = achievementId :=
        congrArg Prod.snd (Table.find?_eq_some_iff.1 hrow).2
      by_cases hid : achievementId = id
      · subst hid
        rw [Option.filter_some_neg (by simp [hkey])]
        exact .deleted rfl
      · rw [Option.filter_some_pos (by simp [hkey, hid])]
        exact .kept rfl rfl
  | @createProgress a u total hfree =>
    have hrow : Keyed.key (⟨u, a, 0, total⟩ : Progress) = (u, a) := rfl
    by_cases hkey : (u, a) = (userId, achievementId)
    · cases hkey
      rw [hfree, Table.find?_put_of_eq hrow]
      exact .started rfl
    · rw [Table.find?_put_of_ne (by rwa [hrow])]
      exact .kept rfl rfl
  | @increment a u row hfound hopen =>
    have hrow : Keyed.key row.counted = (u, a) := (Table.find?_eq_some_iff.1 hfound).2
    by_cases hkey : (u, a) = (userId, achievementId)
    · cases hkey
      rw [hfound, Table.find?_put_of_eq hrow]
      exact .counted hopen rfl
    · rw [Table.find?_put_of_ne (by rwa [hrow])]
      exact .kept (by simpa [Exchange.counts, Exchange.counted?] using hkey) rfl
  | @complete row stored reward balance hfound hfull hcredit =>
    by_cases hkey : (row.userId, row.achievementId) = (userId, achievementId)
    · cases hkey
      rw [hfound, Table.find?_erase_self]
      exact .paid rfl rfl hfull rfl
    · rw [Table.find?_erase_of_ne hkey]
      exact .kept rfl (by simpa [Exchange.pays, Exchange.payment?] using hkey)
  | _ => exact .kept rfl rfl

/-- What an exchange does to the balance of a pair. -/
inductive BalanceStep (userId : UserId) (restaurantId : RestaurantId) (x : Exchange) :
    Option Balance → Option Balance → Prop
  | credited {points experience : Amount} {balance : Option Balance} {after : Balance}
      (hcredit : credited? (balance.getD (.empty userId restaurantId)) points experience =
        some after)
      (hx : x = ⟨.credit userId restaurantId points experience, .ok after⟩) :
      BalanceStep userId restaurantId x balance (some after)
  | paid {row : Progress} {reward : Reward} {balance : Option Balance} {after : Balance}
      (huser : row.userId = userId) (hrestaurant : reward.restaurantId = restaurantId)
      (hcredit : credited? (balance.getD (.empty userId restaurantId)) reward.points
        reward.experience = some after)
      (hx : x = ⟨.complete row reward, .ok true⟩) :
      BalanceStep userId restaurantId x balance (some after)
  | debited {points rest : Amount} {balance : Balance} (hcovered : ¬ balance.points < points)
      (hrest : balance.points.sub? points = some rest)
      (hx : x = ⟨.debit userId restaurantId points, .ok (some { balance with points := rest })⟩) :
      BalanceStep userId restaurantId x (some balance) (some { balance with points := rest })
  | kept {balance : Option Balance}
      (hpays : ∀ p, x.payment? = some p →
        (p.userId, p.reward.restaurantId) ≠ (userId, restaurantId))
      (hspends : ∀ p, x.purchase? = some p → (p.userId, p.restaurantId) ≠ (userId, restaurantId)) :
      BalanceStep userId restaurantId x balance balance

theorem key_of_credited? {b after : Balance} {points experience : Amount}
    (h : credited? b points experience = some after) : Keyed.key after = Keyed.key b := by
  unfold credited? at h
  obtain ⟨p, hp, h⟩ := Option.bind_eq_some_iff.1 h
  obtain ⟨e, he, h⟩ := Option.bind_eq_some_iff.1 h
  cases h
  rfl

theorem toInt_of_credited? {b after : Balance} {points experience : Amount}
    (h : credited? b points experience = some after) :
    after.points.toInt = b.points.toInt + points.toInt ∧
      after.experience.toInt = b.experience.toInt + experience.toInt := by
  unfold credited? at h
  obtain ⟨p, hp, h⟩ := Option.bind_eq_some_iff.1 h
  obtain ⟨e, he, h⟩ := Option.bind_eq_some_iff.1 h
  cases h
  exact ⟨Amount.ofInt?_eq_some_iff.1 hp, Amount.ofInt?_eq_some_iff.1 he⟩

theorem key_balanceOf (s : Memory) (userId : UserId) (restaurantId : RestaurantId) :
    Keyed.key (s.balanceOf userId restaurantId) = (userId, restaurantId) := by
  unfold balanceOf
  cases hfound : s.balances.find? (userId, restaurantId) with
  | none => rfl
  | some balance => exact (Table.find?_eq_some_iff.1 hfound).2

theorem Change.balance (h : s.Change x s') (userId : UserId) (restaurantId : RestaurantId) :
    BalanceStep userId restaurantId x (s.balances.find? (userId, restaurantId))
      (s'.balances.find? (userId, restaurantId)) := by
  cases h with
  | nothing h =>
    apply BalanceStep.kept
    · intro p hp
      obtain ⟨row, reward, rfl, -⟩ := Exchange.payment?_eq_some_iff.1 hp
      cases h
    · intro p hp
      obtain ⟨balance, rfl⟩ := Exchange.purchase?_eq_some_iff.1 hp
      cases h
  | @credit u r points experience after hcredit =>
    have hafter : Keyed.key after = (u, r) := (key_of_credited? hcredit).trans (key_balanceOf s u r)
    by_cases hkey : (u, r) = (userId, restaurantId)
    · cases hkey
      rw [Table.find?_put_of_eq hafter]
      exact .credited hcredit rfl
    · rw [Table.find?_put_of_ne (by rwa [hafter])]
      exact .kept (fun _ hp => nomatch hp) fun _ hp => nomatch hp
  | @debit u r points rest balance hfound hcovered hrest =>
    have hafter : Keyed.key { balance with points := rest } = (u, r) :=
      (Table.find?_eq_some_iff.1 hfound).2
    by_cases hkey : (u, r) = (userId, restaurantId)
    · cases hkey
      rw [hfound, Table.find?_put_of_eq hafter]
      exact .debited hcovered hrest rfl
    · rw [Table.find?_put_of_ne (by rwa [hafter])]
      refine .kept (fun _ hp => nomatch hp) fun p hp => ?_
      cases hp
      exact hkey
  | @complete row stored reward after hfound hfull hcredit =>
    have hafter : Keyed.key after = (row.userId, reward.restaurantId) :=
      (key_of_credited? hcredit).trans (key_balanceOf s row.userId reward.restaurantId)
    by_cases hkey : (row.userId, reward.restaurantId) = (userId, restaurantId)
    · cases hkey
      rw [Table.find?_put_of_eq hafter]
      exact .paid rfl rfl hcredit rfl
    · rw [Table.find?_put_of_ne (by rwa [hafter])]
      refine .kept (fun p hp => ?_) fun _ hp => nomatch hp
      cases hp
      exact hkey
  | _ => exact .kept (fun _ hp => nomatch hp) fun _ hp => nomatch hp

/-- A row that is not full counts. -/
theorem handle_increment_of_open {userId : UserId} {achievementId : AchievementId} {row : Progress}
    (hfound : s.progress.find? (userId, achievementId) = some row)
    (hopen : row.progress < row.total) :
    handle (.increment achievementId userId) s =
      (.ok (some row.counted), { s with progress := s.progress.put row.counted }) := by
  simp only [handle, increment, answered, hfound, if_pos hopen]
  rfl

/-- A full row is exchanged for its reward where that fits. -/
theorem handle_complete_of_full {row stored : Progress} (reward : Reward)
    (hfound : s.progress.find? (row.userId, row.achievementId) = some stored)
    (hfull : stored.progress = stored.total) :
    handle (.complete row reward) s =
      match credited? (s.balanceOf row.userId reward.restaurantId) reward.points
        reward.experience with
      | none => (.error .balanceOutOfRange, s)
      | some b => (.ok true, { s with
          progress := s.progress.erase (row.userId, row.achievementId),
          balances := s.balances.put b }) := by
  simp only [handle, complete, hfound, if_pos hfull, credit]
  cases credited? (s.balanceOf row.userId reward.restaurantId) reward.points
    reward.experience <;> rfl

/-- No row is exchanged where none is full. -/
theorem handle_complete_of_unfilled {row : Progress} (reward : Reward)
    (hopen : ∀ stored, s.progress.find? (row.userId, row.achievementId) = some stored →
      stored.progress ≠ stored.total) :
    handle (.complete row reward) s = (.ok false, s) := by
  cases hfound : s.progress.find? (row.userId, row.achievementId) with
  | none => simp only [handle, complete, hfound]
  | some stored => simp only [handle, complete, hfound, if_neg (hopen stored hfound)]

end Memory

end Loyalty
