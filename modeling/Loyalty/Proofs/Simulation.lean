import Loyalty.Proofs.PairedTables
import Loyalty.Proofs.SameScripts
import Loyalty.Proofs.StoredRows
import Loyalty.Proofs.TableSteps

/-!
# The relational store simulates the store in memory

The two stores keep the same things: their tables hold the same rows in the same order, up to
identifiers and to the form of a row, and the renaming covers both. Requests that are alike keep
them so and are answered alike, where the store in memory finds them fitting: what is referred to is
there, no balance leaves its range, and there is an identifier left for what is entered.
-/

namespace Loyalty

/-- A credit to a user at a restaurant that are both there, after which the balance is in range. -/
def Memory.takesCredit (userId : UserId) (restaurantId : RestaurantId)
    (points experience : Amount) (s : Memory) : Bool :=
  (s.users.find? userId).isSome && (s.restaurants.find? restaurantId).isSome &&
    (Memory.credited? (s.balanceOf userId restaurantId) points experience).isSome

/-- What a request writes refers to what is there, and stays in range. -/
def Request.fits (s : Memory) : Request → Bool
  | .createUser _ => decide (s.created < 2147483647)
  | .createRestaurant _ => decide (s.created < 2147483647)
  | .createCoupon input =>
    decide (s.created < 2147483647) && (s.restaurants.find? input.restaurantId).isSome
  | .createAchievement input =>
    decide (s.created < 2147483647) && (s.restaurants.find? input.restaurantId).isSome
  | .createProgress _ userId _ => (s.users.find? userId).isSome
  | .credit userId restaurantId points experience =>
    s.takesCredit userId restaurantId points experience
  | .debit userId restaurantId points =>
    (s.balances.find? (userId, restaurantId)).all fun b =>
      decide (b.points < points) || (b.points.sub? points).isSome
  | .complete row reward =>
    (s.progress.find? (row.userId, row.achievementId)).all fun stored =>
      decide (stored.progress ≠ stored.total) ||
        s.takesCredit row.userId reward.restaurantId reward.points reward.experience
  | _ => true

namespace Amount

variable {a b c d a' b' c' d' : Amount}

theorem pairRank_lt_iff :
    pairRank a b < pairRank c d ↔ a.toInt < c.toInt ∨ a.toInt = c.toInt ∧ b.toInt < d.toInt := by
  have hb := bounds b
  have hd := bounds d
  unfold pairRank
  omega

/-- Pairs stand in the same order where their first and their second amounts do. -/
theorem pairRank_lt_congr (hless : a.toInt < c.toInt ↔ a'.toInt < c'.toInt)
    (hmore : c.toInt < a.toInt ↔ c'.toInt < a'.toInt)
    (hsecond : b.toInt < d.toInt ↔ b'.toInt < d'.toInt) :
    pairRank a b < pairRank c d ↔ pairRank a' b' < pairRank c' d' := by
  rw [pairRank_lt_iff, pairRank_lt_iff]
  omega

end Amount

section Keys

variable {ρ : Renaming} {l : Likeness}

theorem sameKey_user (hl : ρ.Admits l) {i j : UserId} (h : l.users i j) :
    SameKey ρ.pairs.StoredUser i j :=
  fun a b hab => hl.told.users h (a.id, b.id) hab.1

theorem sameKey_restaurant (hl : ρ.Admits l) {i j : RestaurantId} (h : l.restaurants i j) :
    SameKey ρ.pairs.SameRestaurant i j :=
  fun a b hab => hl.told.restaurants h (a.id, b.id) hab.1

theorem sameKey_coupon (hl : ρ.Admits l) {i j : CouponId} (h : l.coupons i j) :
    SameKey ρ.pairs.StoredCoupon i j :=
  fun a b hab => hl.told.coupons h (a.id, b.id) hab.1

theorem sameKey_achievement (hl : ρ.Admits l) {i j : AchievementId} (h : l.achievements i j) :
    SameKey ρ.pairs.StoredAchievement i j :=
  fun a b hab => hl.told.achievements h (a.id, b.id) hab.1

theorem sameKey_progress (hl : ρ.Admits l) {u v : UserId} {i j : AchievementId}
    (huser : l.users u v) (hachievement : l.achievements i j) :
    SameKey ρ.pairs.SameProgress (u, i) (v, j) := by
  intro a b hab
  have hu := hl.told.users huser (a.userId, b.userId) hab.1
  have ha := hl.told.achievements hachievement (a.achievementId, b.achievementId) hab.2.1
  change (a.userId, a.achievementId) = (u, i) ↔ (b.userId, b.achievementId) = (v, j)
  rw [Prod.mk.injEq, Prod.mk.injEq, hu, ha]

theorem sameKey_balance (hl : ρ.Admits l) {u v : UserId} {i j : RestaurantId}
    (huser : l.users u v) (hrestaurant : l.restaurants i j) :
    SameKey ρ.pairs.StoredBalance (u, i) (v, j) := by
  intro a b hab
  have hu := hl.told.users huser (a.userId, b.userId) hab.1
  have hr := hl.told.restaurants hrestaurant (a.restaurantId, b.restaurantId) hab.2.1
  change (a.userId, a.restaurantId) = (u, i) ↔ (b.userId, b.restaurantId) = (v, j)
  rw [Prod.mk.injEq, Prod.mk.injEq, hu, hr]

theorem samePlace_user (h : ρ.Rises) {u : User} {row : UserRow}
    (hrow : ρ.pairs.StoredUser u row) : SamePlace ρ.pairs.StoredUser u row :=
  fun _ _ hcd => ⟨h.user_lt_iff hrow.1 hcd.1, h.user_lt_iff hcd.1 hrow.1⟩

theorem samePlace_restaurant (h : ρ.Rises) {a b : Restaurant}
    (hab : ρ.pairs.SameRestaurant a b) : SamePlace ρ.pairs.SameRestaurant a b :=
  fun _ _ hcd => ⟨h.restaurant_lt_iff hab.1 hcd.1, h.restaurant_lt_iff hcd.1 hab.1⟩

theorem samePlace_coupon (h : ρ.Rises) {c : Coupon} {row : CouponRow}
    (hrow : ρ.pairs.StoredCoupon c row) : SamePlace ρ.pairs.StoredCoupon c row :=
  fun _ _ hcd => ⟨h.coupon_lt_iff hrow.1 hcd.1, h.coupon_lt_iff hcd.1 hrow.1⟩

theorem samePlace_achievement (h : ρ.Rises) {a : Achievement} {row : AchievementRow}
    (hrow : ρ.pairs.StoredAchievement a row) : SamePlace ρ.pairs.StoredAchievement a row :=
  fun _ _ hcd =>
    ⟨h.achievement_lt_iff hrow.1 hcd.1, h.achievement_lt_iff hcd.1 hrow.1⟩

theorem samePlace_progress (h : ρ.Rises) {a b : Progress} (hab : ρ.pairs.SameProgress a b) :
    SamePlace ρ.pairs.SameProgress a b := by
  rintro c d ⟨huser, hachievement, _⟩
  have hless := h.user_lt_iff hab.1 huser
  have hmore := h.user_lt_iff huser hab.1
  exact ⟨Amount.pairRank_lt_congr hless hmore
      (h.achievement_lt_iff hab.2.1 hachievement),
    Amount.pairRank_lt_congr hmore hless (h.achievement_lt_iff hachievement hab.2.1)⟩

theorem samePlace_balance (h : ρ.Rises) {b : Balance} {row : BalanceRow}
    (hrow : ρ.pairs.StoredBalance b row) : SamePlace ρ.pairs.StoredBalance b row := by
  rintro c d ⟨huser, hrestaurant, _⟩
  have hless := h.user_lt_iff hrow.1 huser
  have hmore := h.user_lt_iff huser hrow.1
  exact ⟨Amount.pairRank_lt_congr hless hmore
      (h.restaurant_lt_iff hrow.2.1 hrestaurant),
    Amount.pairRank_lt_congr hmore hless (h.restaurant_lt_iff hrestaurant hrow.2.1)⟩

end Keys

/-- The tables of both stores hold the same rows, and progress is kept only of achievements that
are there. -/
structure SameTables (l : Likeness) (s : Memory) (t : Relational) : Prop where
  users : s.users.Pairs l.StoredUser t.users
  restaurants : s.restaurants.Pairs l.SameRestaurant t.restaurants
  coupons : s.coupons.Pairs l.StoredCoupon t.coupons
  achievements : s.achievements.Pairs l.StoredAchievement t.achievements
  progress : s.progress.Pairs l.SameProgress t.progress
  balances : s.balances.Pairs l.StoredBalance t.balances
  owned : ∀ row ∈ s.progress.rows, (s.achievements.find? row.achievementId).isSome

theorem SameTables.mono {l m : Likeness} {s : Memory} {t : Relational} (h : SameTables l s t)
    (hle : l.Le m) : SameTables m s t where
  users := h.users.mono fun _ _ => Likeness.storedUser_mono hle
  restaurants := h.restaurants.mono fun _ _ => Likeness.sameRestaurant_mono hle
  coupons := h.coupons.mono fun _ _ => Likeness.storedCoupon_mono hle
  achievements := h.achievements.mono fun _ _ => Likeness.storedAchievement_mono hle
  progress := h.progress.mono fun _ _ => Likeness.sameProgress_mono hle
  balances := h.balances.mono fun _ _ => Likeness.storedBalance_mono hle
  owned := h.owned

structure Simulates (ρ : Renaming) (s : Memory) (t : Relational) : Prop
    extends SameTables ρ.pairs s t where
  rises : ρ.Rises
  covers : ρ.Covers s.created t.lastUser t.lastRestaurant t.lastCoupon t.lastAchievement

theorem Outcomes.ok_of_eq {ε δ α β : Type} {onError : ε → δ → Prop} {onValue : α → β → Prop}
    {a : α} {b : β} {x : Except δ β} (hx : x = .ok b) (h : onValue a b) :
    Outcomes onError onValue (.ok a) x := by
  rw [hx]
  exact .ok h

section Reads

variable {ρ : Renaming} {l : Likeness} (hl : ρ.Admits l)

include hl

theorem readUser (u : User) (row : UserRow) (h : ρ.pairs.StoredUser u row) :
    ∃ v, row.read = .ok v ∧ l.SameUser u v :=
  (Likeness.storedUser_mono hl.known h).read

theorem readCoupon (c : Coupon) (row : CouponRow) (h : ρ.pairs.StoredCoupon c row) :
    ∃ d, row.read = .ok d ∧ l.SameCoupon c d :=
  (Likeness.storedCoupon_mono hl.known h).read

theorem readAchievement (a : Achievement) (row : AchievementRow)
    (h : ρ.pairs.StoredAchievement a row) : ∃ b, row.read = .ok b ∧ l.SameAchievement a b :=
  (Likeness.storedAchievement_mono hl.known h).read

theorem readBalance (b : Balance) (row : BalanceRow) (h : ρ.pairs.StoredBalance b row) :
    ∃ c, row.read = .ok c ∧ l.SameBalance b c :=
  (Likeness.storedBalance_mono hl.known h).read

end Reads

namespace Simulates

section Answers

variable {ρ : Renaming} {l : Likeness} {s : Memory} {t : Relational} (h : Simulates ρ s t)
  (hl : ρ.Admits l)

include h hl

theorem findUser {i j : UserId} (hid : l.users i j) :
    Outcomes SameKind (Option.Rel l.SameUser) (.ok (s.users.find? i))
      (readRow UserRow.read (t.users.find? j)) := by
  obtain ⟨found, hread, hfound⟩ := rel_readRow (readUser hl) (h.users.find? (sameKey_user hl hid))
  exact .ok_of_eq hread hfound

theorem findUserByEmail (email : String) :
    Outcomes SameKind (Option.Rel l.SameUser) (.ok (s.findUserByEmail email))
      (t.findUserByEmail email) := by
  have hrow : Option.Rel ρ.pairs.StoredUser (s.users.rows.find? fun u => u.email == email)
      (t.users.rows.find? fun u => u.email == email) :=
    rel_find? h.users fun u row hrow => by rw [hrow.2]
  obtain ⟨found, hread, hfound⟩ := rel_readRow (readUser hl) hrow
  exact .ok_of_eq hread hfound

theorem findUserByCredentials (email passwordDigest : String) :
    Outcomes SameKind (Option.Rel l.SameUser) (.ok (s.findUserByCredentials email passwordDigest))
      (t.findUserByCredentials email passwordDigest) := by
  have hrow : Option.Rel ρ.pairs.StoredUser
      (s.users.rows.find? fun u => u.email == email && u.passwordDigest == passwordDigest)
      (t.users.rows.find? fun u => u.email == email && u.passwordDigest == passwordDigest) :=
    rel_find? h.users fun u row hrow => by rw [hrow.2]
  obtain ⟨found, hread, hfound⟩ := rel_readRow (readUser hl) hrow
  exact .ok_of_eq hread hfound

theorem findRestaurant {i j : RestaurantId} (hid : l.restaurants i j) :
    Option.Rel l.SameRestaurant (s.restaurants.find? i) (t.restaurants.find? j) :=
  rel_mono (h.restaurants.find? (sameKey_restaurant hl hid)) fun _ _ =>
    Likeness.sameRestaurant_mono hl.known

theorem findCoupon {i j : CouponId} (hid : l.coupons i j) :
    Outcomes SameKind (Option.Rel l.SameCoupon) (.ok (s.coupons.find? i))
      (readRow CouponRow.read (t.coupons.find? j)) := by
  obtain ⟨found, hread, hfound⟩ :=
    rel_readRow (readCoupon hl) (h.coupons.find? (sameKey_coupon hl hid))
  exact .ok_of_eq hread hfound

theorem findCouponWithRestaurant {i j : CouponId} (hid : l.coupons i j) :
    Outcomes SameKind (Option.Rel fun a b =>
        l.SameCoupon a.1 b.1 ∧ Option.Rel l.SameRestaurant a.2 b.2)
      (.ok (s.findCouponWithRestaurant i)) (t.findCouponWithRestaurant j) := by
  obtain ⟨found, hread, hfound⟩ :=
    rel_readRow (readCoupon hl) (h.coupons.find? (sameKey_coupon hl hid))
  unfold Memory.findCouponWithRestaurant Relational.findCouponWithRestaurant
  rw [hread]
  rcases rel_cases hfound with ⟨hs, rfl⟩ | ⟨c, d, hs, rfl, hcd⟩
  · rw [hs]
    exact .ok .none
  · rw [hs]
    exact .ok (.some ⟨hcd, h.findRestaurant hl hcd.2.1⟩)

theorem listCoupons {i j : RestaurantId} (hid : l.restaurants i j) :
    Outcomes SameKind (List.Forall₂ l.SameCoupon) (.ok (s.listCoupons i)) (t.listCoupons j) := by
  have hrows := h.coupons.filter (p := fun c => c.restaurantId = i)
    (q := fun c => c.restaurantId = j) fun c row hrow => by
      rw [decide_eq_decide]
      exact hl.told.restaurants hid (c.restaurantId, row.restaurantId) hrow.2.1
  obtain ⟨found, hread, hfound⟩ := rel_readRows (readCoupon hl) hrows
  exact .ok_of_eq hread hfound

theorem findBalance {u v : UserId} {i j : RestaurantId} (huser : l.users u v)
    (hrestaurant : l.restaurants i j) :
    Outcomes SameKind (Option.Rel l.SameBalance) (.ok (s.balances.find? (u, i)))
      (t.findBalance v j) := by
  obtain ⟨found, hread, hfound⟩ :=
    rel_readRow (readBalance hl) (h.balances.find? (sameKey_balance hl huser hrestaurant))
  exact .ok_of_eq hread hfound

theorem listBalances {u v : UserId} (huser : l.users u v) :
    Outcomes SameKind (List.Forall₂ l.SameBalance) (.ok (s.listBalances u)) (t.listBalances v) := by
  have hrows := h.balances.filter (p := fun b => b.userId = u)
    (q := fun b => b.userId = v) fun b row hrow => by
      rw [decide_eq_decide]
      exact hl.told.users huser (b.userId, row.userId) hrow.1
  obtain ⟨found, hread, hfound⟩ := rel_readRows (readBalance hl) hrows
  exact .ok_of_eq hread hfound

theorem findAchievement {i j : AchievementId} (hid : l.achievements i j) :
    Outcomes SameKind (Option.Rel l.SameAchievement) (.ok (s.achievements.find? i))
      (readRow AchievementRow.read (t.achievements.find? j)) := by
  obtain ⟨found, hread, hfound⟩ :=
    rel_readRow (readAchievement hl) (h.achievements.find? (sameKey_achievement hl hid))
  exact .ok_of_eq hread hfound

theorem listAchievements {i j : RestaurantId} (hid : l.restaurants i j) :
    Outcomes SameKind (List.Forall₂ l.SameAchievement) (.ok (s.listAchievements i))
      (t.listAchievements j) := by
  have hrows := h.achievements.filter (p := fun a => a.restaurantId = i)
    (q := fun a => a.restaurantId = j) fun a row hrow => by
      rw [decide_eq_decide]
      exact hl.told.restaurants hid (a.restaurantId, row.restaurantId) hrow.2.1
  obtain ⟨found, hread, hfound⟩ := rel_readRows (readAchievement hl) hrows
  exact .ok_of_eq hread hfound

theorem findProgress {u v : UserId} {i j : AchievementId} (huser : l.users u v)
    (hachievement : l.achievements i j) :
    Option.Rel l.SameProgress (s.progress.find? (u, i)) (t.progress.find? (v, j)) :=
  rel_mono (h.progress.find? (sameKey_progress hl huser hachievement)) fun _ _ =>
    Likeness.sameProgress_mono hl.known

theorem listProgress {u v : UserId} (huser : l.users u v) :
    l.SameRows (s.listProgress u) (t.listProgress v) := by
  have hrows := h.progress.filter (p := fun p => p.userId = u)
    (q := fun p => p.userId = v) fun p q hpq => by
      rw [decide_eq_decide]
      exact hl.told.users huser (p.userId, q.userId) hpq.1
  refine ⟨hrows.mono fun _ _ => Likeness.sameProgress_mono hl.known, ?_⟩
  intro i j hachievement
  refine rel_any hrows ?_
  intro p q hpq
  rw [decide_eq_decide]
  exact hl.told.achievements hachievement (p.achievementId, q.achievementId) hpq.2.1

end Answers

section Changes

variable {ρ : Renaming} {l : Likeness} {s : Memory} {t : Relational}

theorem setAccountType (h : Simulates ρ s t) (hl : ρ.Admits l) {i j : UserId}
    (hid : l.users i j) (accountType : AccountType) :
    (s.setAccountType i accountType).1 = (t.setAccountCode j accountType.code).1 ∧
      Simulates ρ (s.setAccountType i accountType).2 (t.setAccountCode j accountType.code).2 := by
  unfold Memory.setAccountType Relational.setAccountCode
  rcases rel_cases (h.users.find? (sameKey_user hl hid)) with ⟨hs, ht⟩ | ⟨u, row, hs, ht, hrow⟩
  · rw [hs, ht]
    exact ⟨rfl, h⟩
  · rw [hs, ht]
    have hchanged : ρ.pairs.StoredUser { u with accountType := accountType }
        { row with accountCode := accountType.code } := by
      refine ⟨hrow.1, ?_⟩
      rw [hrow.2]
    exact ⟨rfl, { h with users := h.users.put hchanged (samePlace_user h.rises hchanged) }⟩

theorem markDeleted (h : Simulates ρ s t) (hl : ρ.Admits l) {i j : CouponId}
    (hid : l.coupons i j) :
    (s.markDeleted i).1 = (t.markDeleted j).1 ∧
      Simulates ρ (s.markDeleted i).2 (t.markDeleted j).2 := by
  unfold Memory.markDeleted Relational.markDeleted
  rcases rel_cases (h.coupons.find? (sameKey_coupon hl hid)) with
    ⟨hs, ht⟩ | ⟨c, row, hs, ht, hrow⟩
  · rw [hs, ht]
    exact ⟨rfl, h⟩
  · rw [hs, ht]
    have hchanged :
        ρ.pairs.StoredCoupon { c with deleted := true } { row with deleted := true } := by
      refine ⟨hrow.1, hrow.2.1, ?_⟩
      rw [hrow.2.2]
    exact ⟨rfl, { h with coupons := h.coupons.put hchanged (samePlace_coupon h.rises hchanged) }⟩

theorem putProgress (h : Simulates ρ s t) {a b : Progress} (hab : ρ.pairs.SameProgress a b)
    (howned : (s.achievements.find? a.achievementId).isSome) :
    Simulates ρ { s with progress := s.progress.put a }
      { t with progress := t.progress.put b } where
  rises := h.rises
  covers := h.covers
  users := h.users
  restaurants := h.restaurants
  coupons := h.coupons
  achievements := h.achievements
  progress := h.progress.put hab (samePlace_progress h.rises hab)
  balances := h.balances
  owned := by
    intro row hrow
    rcases Table.mem_put.1 hrow with rfl | ⟨hrow, _⟩
    · exact howned
    · exact h.owned row hrow

theorem increment (h : Simulates ρ s t) (hl : ρ.Admits l) {u v : UserId} {i j : AchievementId}
    (hachievement : l.achievements i j) (huser : l.users u v) :
    Option.Rel l.SameProgress (s.increment i u).1 (t.increment j v).1 ∧
      Simulates ρ (s.increment i u).2 (t.increment j v).2 := by
  unfold Memory.increment Relational.increment
  rcases rel_cases (h.progress.find? (sameKey_progress hl huser hachievement)) with
    ⟨hs, ht⟩ | ⟨a, b, hs, ht, hab⟩
  · rw [hs, ht]
    exact ⟨.none, h⟩
  · have hprogress : b.progress = a.progress := by rw [hab.2.2]
    have htotal : b.total = a.total := by rw [hab.2.2]
    rw [hs, ht]
    dsimp only
    rw [hprogress, htotal]
    split
    · have hcounted : ρ.pairs.SameProgress { a with progress := a.progress + 1 }
          { b with progress := a.progress + 1, total := a.total } := ⟨hab.1, hab.2.1, rfl⟩
      refine ⟨.some (Likeness.sameProgress_mono hl.known hcounted), h.putProgress hcounted ?_⟩
      exact h.owned a (Table.find?_eq_some_iff.1 hs).1
    · exact ⟨.none, h⟩

theorem deleteAchievement (h : Simulates ρ s t) (hl : ρ.Admits l) {i j : AchievementId}
    (hid : l.achievements i j) :
    (s.deleteAchievement i).1 = (t.deleteAchievement j).1 ∧
      Simulates ρ (s.deleteAchievement i).2 (t.deleteAchievement j).2 := by
  have hkept := h.progress.filter (p := fun p => p.achievementId ≠ i)
    (q := fun p => p.achievementId ≠ j) fun p q hpq => by
      rw [decide_eq_decide, not_iff_not]
      exact hl.told.achievements hid (p.achievementId, q.achievementId) hpq.2.1
  have hkey := sameKey_achievement hl hid
  unfold Memory.deleteAchievement Relational.deleteAchievement
  rcases rel_cases (h.achievements.find? hkey) with ⟨hs, ht⟩ | ⟨a, row, hs, ht, hrow⟩
  · have hnone : ∀ p ∈ s.progress.rows, decide (p.achievementId ≠ i) = true := by
      intro p hp
      apply decide_eq_true
      rintro rfl
      have howned := h.owned p hp
      rw [hs] at howned
      cases howned
    rw [Table.filter_eq_self hnone] at hkept
    rw [hs, ht, Table.erase_eq_self ht]
    exact ⟨rfl, { h with progress := hkept }⟩
  · rw [hs, ht]
    refine ⟨rfl, { h with
      achievements := h.achievements.erase hkey, progress := hkept, owned := ?_ }⟩
    intro p hp
    obtain ⟨hp, hne⟩ := List.mem_filter.1 hp
    change ((s.achievements.erase i).find? p.achievementId).isSome
    rw [Table.find?_erase_of_ne (Ne.symm (of_decide_eq_true hne))]
    exact h.owned p hp

theorem known_user (h : Simulates ρ s t) (hl : ρ.Admits l) {u v : UserId} (huser : l.users u v)
    (hthere : (s.users.find? u).isSome) :
    ρ.pairs.users u v ∧ ∃ row, t.users.find? v = some row := by
  obtain ⟨_, row, hrow, rfl, rfl, hfound⟩ := h.users.known (sameKey_user hl huser) hthere
  exact ⟨hrow.1, row, hfound⟩

theorem known_restaurant (h : Simulates ρ s t) (hl : ρ.Admits l) {i j : RestaurantId}
    (hrestaurant : l.restaurants i j) (hthere : (s.restaurants.find? i).isSome) :
    ρ.pairs.restaurants i j ∧ ∃ row, t.restaurants.find? j = some row := by
  obtain ⟨_, row, hrow, rfl, rfl, hfound⟩ :=
    h.restaurants.known (sameKey_restaurant hl hrestaurant) hthere
  exact ⟨hrow.1, row, hfound⟩

theorem known_achievement (h : Simulates ρ s t) (hl : ρ.Admits l) {i j : AchievementId}
    (hachievement : l.achievements i j) (hthere : (s.achievements.find? i).isSome) :
    ρ.pairs.achievements i j ∧ ∃ row, t.achievements.find? j = some row := by
  obtain ⟨_, row, hrow, rfl, rfl, hfound⟩ :=
    h.achievements.known (sameKey_achievement hl hachievement) hthere
  exact ⟨hrow.1, row, hfound⟩

/-- A new row that refers to what is there is entered by both stores. -/
theorem createProgress (h : Simulates ρ s t) (hl : ρ.Admits l) {u v : UserId}
    {i j : AchievementId} (hachievement : l.achievements i j) (huser : l.users u v)
    (total : Amount) (hstored : (s.achievements.find? i).isSome)
    (hfits : (Request.createProgress i u total).fits s = true) :
    Outcomes SameKind l.SameProgress (s.createProgress i u total).1
        (t.createProgress j v total).1 ∧
      Simulates ρ (s.createProgress i u total).2 (t.createProgress j v total).2 := by
  unfold Memory.createProgress Relational.createProgress
  rcases rel_cases (h.progress.find? (sameKey_progress hl huser hachievement)) with
    ⟨hs, ht⟩ | ⟨a, b, hs, ht, hab⟩
  · obtain ⟨hi, row, hrow⟩ := h.known_achievement hl hachievement hstored
    obtain ⟨hu, user, huserRow⟩ := h.known_user hl huser hfits
    have hnew : ρ.pairs.SameProgress ⟨u, i, 0, total⟩ ⟨v, j, 0, total⟩ := ⟨hu, hi, rfl⟩
    rw [hs, ht, hrow, huserRow]
    exact ⟨.ok (Likeness.sameProgress_mono hl.known hnew), h.putProgress hnew hstored⟩
  · rw [hs, ht]
    exact ⟨.error rfl, h⟩

/-- Both stores make a fitting credit. -/
theorem creditedRow (h : Simulates ρ s t) (hl : ρ.Admits l) {u v : UserId} {i j : RestaurantId}
    (huser : l.users u v) (hrestaurant : l.restaurants i j) {points experience : Amount}
    (hfits : s.takesCredit u i points experience = true) :
    ∃ after row, Memory.credited? (s.balanceOf u i) points experience = some after ∧
      t.creditedRow v j points experience = .ok row ∧ ρ.pairs.StoredBalance after row := by
  rw [Memory.takesCredit, Bool.and_eq_true, Bool.and_eq_true] at hfits
  obtain ⟨⟨huserThere, hrestaurantThere⟩, hrange⟩ := hfits
  obtain ⟨hu, userRow, huserRow⟩ := h.known_user hl huser huserThere
  obtain ⟨hr, restaurantRow, hrestaurantRow⟩ := h.known_restaurant hl hrestaurant hrestaurantThere
  obtain ⟨after, hafter⟩ := Option.isSome_iff_exists.1 hrange
  have hkey : (after.userId, after.restaurantId) = (u, i) :=
    (Memory.key_of_credited? hafter).trans (Memory.key_balanceOf s u i)
  obtain ⟨hpoints, hexperience⟩ := Memory.toInt_of_credited? hafter
  cases hkey
  refine ⟨after, ⟨v, j, after.points.toInt, after.experience.toInt⟩, hafter, ?_, hu, hr, rfl⟩
  rw [hpoints, hexperience, Relational.creditedRow, Memory.balanceOf]
  rcases rel_cases (h.balances.find? (sameKey_balance hl huser hrestaurant)) with
    ⟨hs, ht⟩ | ⟨b, row, hs, ht, hrow⟩
  · rw [hs, ht, huserRow, hrestaurantRow]
    simp [Balance.empty]
  · have hrowKey : (row.userId, row.restaurantId) = (v, j) := (Table.find?_eq_some_iff.1 ht).2
    cases hrowKey
    rw [hs, ht, hrow.2.2]
    rfl

theorem credit (h : Simulates ρ s t) (hl : ρ.Admits l) {u v : UserId} {i j : RestaurantId}
    (huser : l.users u v) (hrestaurant : l.restaurants i j) (points experience : Amount)
    (hfits : (Request.credit u i points experience).fits s = true) :
    Outcomes SameKind l.SameBalance (s.credit u i points experience).1
        (t.credit v j points experience).1 ∧
      Simulates ρ (s.credit u i points experience).2 (t.credit v j points experience).2 := by
  obtain ⟨after, row, hafter, hrow, hstored⟩ := h.creditedRow hl huser hrestaurant hfits
  obtain ⟨c, hread, hc⟩ := readBalance hl after row hstored
  rw [Memory.credit, Relational.credit, hafter, hrow]
  dsimp only
  rw [Relational.commitBalance, hread]
  exact ⟨.ok hc, { h with balances := h.balances.put hstored (samePlace_balance h.rises hstored) }⟩

theorem debit (h : Simulates ρ s t) (hl : ρ.Admits l) {u v : UserId} {i j : RestaurantId}
    (huser : l.users u v) (hrestaurant : l.restaurants i j) (points : Amount)
    (hfits : (Request.debit u i points).fits s = true) :
    Outcomes SameKind (Option.Rel l.SameBalance) (s.debit u i points).1
        (t.debit v j points).1 ∧
      Simulates ρ (s.debit u i points).2 (t.debit v j points).2 := by
  unfold Memory.debit Relational.debit
  rw [Request.fits] at hfits
  rcases rel_cases (h.balances.find? (sameKey_balance hl huser hrestaurant)) with
    ⟨hs, ht⟩ | ⟨b, row, hs, ht, hrow⟩
  · rw [hs, ht]
    exact ⟨.ok .none, h⟩
  · have hpoints : row.points = b.points.toInt := by rw [hrow.2.2]
    have hexperience : row.experience = b.experience.toInt := by rw [hrow.2.2]
    rw [hs, Option.all_some, Bool.or_eq_true, decide_eq_true_eq] at hfits
    rw [hs, ht]
    dsimp only
    rw [hpoints]
    by_cases hcovered : b.points < points
    · rw [if_pos hcovered, if_pos (Int32.lt_iff_toInt_lt.1 hcovered)]
      exact ⟨.ok .none, h⟩
    · obtain ⟨rest, hrest⟩ := Option.isSome_iff_exists.1 (hfits.resolve_left hcovered)
      have hstored : ρ.pairs.StoredBalance { b with points := rest }
          { row with points := b.points.toInt - points.toInt } := by
        refine ⟨hrow.1, hrow.2.1, ?_⟩
        rw [Amount.ofInt?_eq_some_iff.1 hrest, hexperience]
      obtain ⟨c, hread, hc⟩ := readBalance hl _ _ hstored
      rw [if_neg hcovered, if_neg fun hlt => hcovered (Int32.lt_iff_toInt_lt.2 hlt), hrest,
        Relational.commitBalance, hread]
      exact ⟨.ok (.some hc),
        { h with balances := h.balances.put hstored (samePlace_balance h.rises hstored) }⟩

theorem complete (h : Simulates ρ s t) (hl : ρ.Admits l) {row row' : Progress}
    {reward reward' : Reward} (hrow : l.SameProgress row row')
    (hreward : l.SameReward reward reward')
    (hfits : (Request.complete row reward).fits s = true) :
    Outcomes SameKind (Eq : Bool → Bool → Prop) (s.complete row reward).1
        (t.complete row' reward').1 ∧
      Simulates ρ (s.complete row reward).2 (t.complete row' reward').2 := by
  obtain ⟨huser, hachievement, -⟩ := hrow
  have hkey := sameKey_progress hl huser hachievement
  unfold Memory.complete Relational.complete
  rw [Request.fits] at hfits
  rcases rel_cases (h.progress.find? hkey) with ⟨hs, ht⟩ | ⟨a, b, hs, ht, hab⟩
  · rw [hs, ht]
    exact ⟨.ok rfl, h⟩
  · have hprogress : b.progress = a.progress := by rw [hab.2.2]
    have htotal : b.total = a.total := by rw [hab.2.2]
    rw [hs, Option.all_some, Bool.or_eq_true, decide_eq_true_eq] at hfits
    rw [hs, ht]
    dsimp only
    rw [hprogress, htotal]
    by_cases hfull : a.progress = a.total
    · obtain ⟨after, columns, hafter, hcolumns, hstored⟩ :=
        h.creditedRow hl huser hreward.1 (hfits.resolve_left (not_not_intro hfull))
      have hpoints : reward'.points = reward.points := by rw [hreward.2]
      have hexperience : reward'.experience = reward.experience := by rw [hreward.2]
      rw [if_pos hfull, if_pos hfull, Memory.credit, hafter, hpoints, hexperience,
        hcolumns]
      refine ⟨.ok rfl, { h with
        progress := h.progress.erase hkey,
        balances := h.balances.put hstored (samePlace_balance h.rises hstored),
        owned := ?_ }⟩
      intro p hp
      exact h.owned p (List.mem_filter.1 hp).1
    · rw [if_neg hfull, if_neg hfull]
      exact ⟨.ok rfl, h⟩

end Changes

/-- Requests that are alike, where they fit, are answered alike and keep the stores alike. -/
theorem handle {ρ : Renaming} {l : Likeness} {s : Memory} {t : Relational} (h : Simulates ρ s t)
    (hl : ρ.Admits l) {q r : Request}
    {alike : Except StoreError q.Answer → Except StoreError r.Answer → Prop}
    (hask : l.Asks q r alike) (hfits : q.fits s = true) :
    alike (Memory.handle q s).1 (Relational.handle r t).1 ∧
      Simulates ρ (Memory.handle q s).2 (Relational.handle r t).2 := by
  cases hask with
  | findUser hid => exact ⟨h.findUser hl hid, h⟩
  | findUserByEmail email => exact ⟨h.findUserByEmail hl email, h⟩
  | findUserByCredentials email passwordDigest =>
    exact ⟨h.findUserByCredentials hl email passwordDigest, h⟩
  | setAccountType hid accountType =>
    obtain ⟨hanswer, hafter⟩ := h.setAccountType hl hid accountType
    exact ⟨.ok hanswer, hafter⟩
  | findRestaurant hid => exact ⟨.ok (h.findRestaurant hl hid), h⟩
  | findCoupon hid => exact ⟨h.findCoupon hl hid, h⟩
  | findCouponWithRestaurant hid => exact ⟨h.findCouponWithRestaurant hl hid, h⟩
  | listCoupons hid => exact ⟨h.listCoupons hl hid, h⟩
  | markDeleted hid =>
    obtain ⟨hanswer, hafter⟩ := h.markDeleted hl hid
    exact ⟨.ok hanswer, hafter⟩
  | findBalance huser hrestaurant => exact ⟨h.findBalance hl huser hrestaurant, h⟩
  | listBalances huser => exact ⟨h.listBalances hl huser, h⟩
  | credit huser hrestaurant points experience =>
    exact h.credit hl huser hrestaurant points experience hfits
  | debit huser hrestaurant points => exact h.debit hl huser hrestaurant points hfits
  | findAchievement hid => exact ⟨h.findAchievement hl hid, h⟩
  | listAchievements hid => exact ⟨h.listAchievements hl hid, h⟩
  | deleteAchievement hid =>
    obtain ⟨hanswer, hafter⟩ := h.deleteAchievement hl hid
    exact ⟨.ok hanswer, hafter⟩
  | listProgress huser => exact ⟨.ok (h.listProgress hl huser), h⟩
  | findProgress hachievement huser => exact ⟨.ok (h.findProgress hl huser hachievement), h⟩
  | increment hachievement huser =>
    obtain ⟨hanswer, hafter⟩ := h.increment hl hachievement huser
    exact ⟨.ok hanswer, hafter⟩
  | complete hrow hreward => exact h.complete hl hrow hreward hfits

end Simulates

end Loyalty
