import Loyalty.Proofs.Account
import Loyalty.Proofs.Overflow
import Loyalty.Proofs.Requests

/-!
# Nothing stored is corrupt

The relational store keeps account types as codes, validities as two days and requirements as JSON.
Whatever has been asked of it since it was empty, its tables record the account of the exchanges and
nothing else. So no request meets a row that means nothing, and every search and every list shows
what was created.
-/

namespace Loyalty

namespace Relational

def numbers (t : Relational) : Nat :=
  t.lastUser + t.lastRestaurant + t.lastCoupon + t.lastAchievement

/-- The store records what is entered, under no more keys than there were exchanges. -/
structure Archives (past : List Exchange) (t : Relational) : Prop where
  users : t.users.Records User.columns t.lastUser (account past).user
  restaurants : t.restaurants.Records Restaurant.columns t.lastRestaurant (account past).restaurant
  coupons : t.coupons.Records Coupon.columns t.lastCoupon (account past).coupon
  achievements :
    t.achievements.Records Achievement.columns t.lastAchievement (account past).achievement
  emails : DistinctEmails (account past).user
  within : t.numbers ≤ past.length

theorem archives_empty : Archives [] empty where
  users := ⟨fun _ => rfl, fun _ _ h => by cases h⟩
  restaurants := ⟨fun _ => rfl, fun _ _ h => by cases h⟩
  coupons := ⟨fun _ => rfl, fun _ _ h => by cases h⟩
  achievements := ⟨fun _ => rfl, fun _ _ h => by cases h⟩
  emails := fun _ _ hu => by cases hu
  within := Nat.le_refl 0

namespace Archives

variable {past : List Exchange} {t : Relational}

/-- Exchanges that enter nothing, in a store of which at most progress and balances change. -/
theorem aside (h : Archives past t) {x : Exchange} (hx : account (x :: past) = account past)
    (progress : Table Progress) (balances : Table BalanceRow) :
    Archives (x :: past) { t with progress := progress, balances := balances } where
  users := hx ▸ h.users
  restaurants := hx ▸ h.restaurants
  coupons := hx ▸ h.coupons
  achievements := hx ▸ h.achievements
  emails := hx ▸ h.emails
  within := Nat.le_succ_of_le h.within

/-- A new row takes the next number, unless there is none. -/
theorem toInt_next {last : Nat} (h : last < 2147483647) :
    (Int32.ofNat (last + 1)).toInt = last + 1 := by
  rw [Int32.toInt_ofNat_of_lt (by omega)]
  omega

/-- No more than one number is given out by an exchange. -/
theorem within_next (h : Archives past t) {t' : Relational} (x : Exchange)
    (hnext : t'.numbers = t.numbers + 1) : t'.numbers ≤ (x :: past).length := by
  rw [hnext]
  exact Nat.succ_le_succ h.within

/-- While there are numbers left, nothing is entered under the next one of a table. -/
theorem unused (h : Archives past t) {ρ σ κ : Type} [Ranked κ] [Keyed σ κ] {rows : Table σ}
    {columns : ρ → σ} {last : Nat} {known : κ → Option ρ} (hrows : rows.Records columns last known)
    (hlast : last ≤ t.numbers) (hroom : past.length < 2147483647) {k : κ}
    (hk : last < 2147483647 → Ranked.rank k = last + 1) : known k = none := by
  have hleft : last < 2147483647 := by
    have hwithin := h.within
    omega
  exact hrows.fresh hleft (hk hleft)

theorem emailTaken_iff (h : Archives past t) (email : String) :
    (t.users.rows.any fun row => row.email == email) = true ↔
      ∃ u, (account past).user u.id = some u ∧ u.email = email := by
  rw [h.users.any_iff User.encodes]
  simp [User.columns, Keyed.key]

theorem findRestaurant (h : Archives past t) (id : RestaurantId) :
    t.restaurants.find? id = (account past).restaurant id := by
  rw [h.restaurants.found]
  exact Option.map_id'

structure Serves (past : List Exchange) (t : Relational) (r : Request) : Prop where
  shows : (account past).Shows (past.length < 2147483647) ⟨r, (handle r t).1⟩
  archives : Archives (⟨r, (handle r t).1⟩ :: past) (handle r t).2

theorem serves_of_eq {r : Request} {answer : Except StoreError r.Answer} {t' : Relational}
    (hresult : handle r t = (answer, t'))
    (hshows : (account past).Shows (past.length < 2147483647) ⟨r, answer⟩)
    (harchives : Archives (⟨r, answer⟩ :: past) t') : Serves past t r := by
  constructor
  · rwa [hresult]
  · rwa [hresult]

theorem createUser (h : Archives past t) (input : NewUser) : Serves past t (.createUser input) := by
  have htaken := h.emailTaken_iff input.email
  cases hany : t.users.rows.any fun row => row.email == input.email with
  | true =>
    have hresult : handle (.createUser input) t = (.error .duplicateEmail, t) := by
      rw [handle, Relational.createUser, hany, if_pos rfl]
    exact serves_of_eq hresult (.inl ⟨htaken.1 hany, rfl⟩) (h.aside rfl _ _)
  | false =>
    let new : User := input.withId ⟨Int32.ofNat (t.lastUser + 1)⟩
    have hresult : handle (.createUser input) t =
        (.ok new, { t with lastUser := t.lastUser + 1, users := t.users.put new.columns }) := by
      have hread : new.columns.read = .ok new := new.read_columns
      rw [handle, Relational.createUser, hany, if_neg nofun]
      exact congrArg (Prod.mk · _) hread
    have hfree : ∀ u, (account past).user u.id = some u → u.email ≠ input.email := by
      intro u hu hemail
      rw [htaken.2 ⟨u, hu, hemail⟩] at hany
      cases hany
    apply serves_of_eq hresult
    · refine .inr ⟨hfree, new.id, rfl, fun hroom => ?_⟩
      exact h.unused h.users (by rw [numbers]; omega) hroom toInt_next
    · exact { h with
        users := h.users.enter User.encodes toInt_next
        emails := h.emails.enter hfree
        within := h.within_next _ (by simp only [numbers]; omega) }

theorem setAccountType (h : Archives past t) (id : UserId) (accountType : AccountType) :
    Serves past t (.setAccountType id accountType) := by
  have hfound := h.users.found id
  cases hknown : (account past).user id with
  | none =>
    rw [hknown, Option.map_none] at hfound
    have hresult : handle (.setAccountType id accountType) t = (.ok false, t) := by
      simp only [handle, setAccountCode, hfound, answered]
    apply serves_of_eq hresult
    · rw [Account.Shows, hknown]
      rfl
    · exact h.aside rfl _ _
  | some u =>
    rw [hknown, Option.map_some] at hfound
    have hresult : handle (.setAccountType id accountType) t =
        (.ok true, { t with
          users := t.users.put (User.columns { u with accountType := accountType }) }) := by
      simp only [handle, setAccountCode, hfound, answered]
      rfl
    apply serves_of_eq hresult
    · rw [Account.Shows, hknown]
      rfl
    · exact { h with
        users := h.users.alter User.encodes
          (fun user => { user with accountType := accountType }) hknown rfl
        emails := h.emails.alter id accountType
        within := Nat.le_succ_of_le h.within }

theorem createRestaurant (h : Archives past t) (input : NewRestaurant) :
    Serves past t (.createRestaurant input) := by
  let new : Restaurant := input.withId ⟨Int32.ofNat (t.lastRestaurant + 1)⟩
  have hresult : handle (.createRestaurant input) t =
      (.ok new, { t with
        lastRestaurant := t.lastRestaurant + 1, restaurants := t.restaurants.put new }) := rfl
  apply serves_of_eq hresult
  · refine ⟨new.id, rfl, fun hroom => ?_⟩
    exact h.unused h.restaurants (by rw [numbers]; omega) hroom toInt_next
  · exact { h with
      restaurants := h.restaurants.enter Restaurant.encodes toInt_next
      within := h.within_next _ (by simp only [numbers]; omega) }

theorem createCoupon (h : Archives past t) (input : NewCoupon) :
    Serves past t (.createCoupon input) := by
  have hrestaurant := h.findRestaurant input.restaurantId
  cases hfound : t.restaurants.find? input.restaurantId with
  | none =>
    have hresult : handle (.createCoupon input) t = (.error .missingReference, t) := by
      rw [handle, Relational.createCoupon, hfound]
    exact serves_of_eq hresult (.inl ⟨hrestaurant.symm.trans hfound, rfl⟩) (h.aside rfl _ _)
  | some restaurant =>
    let new : Coupon := input.withId ⟨Int32.ofNat (t.lastCoupon + 1)⟩
    have hresult : handle (.createCoupon input) t =
        (.ok new,
          { t with lastCoupon := t.lastCoupon + 1, coupons := t.coupons.put new.columns }) := by
      have hread : new.columns.read = .ok new := new.read_columns
      rw [handle, Relational.createCoupon, hfound]
      exact congrArg (Prod.mk · _) hread
    apply serves_of_eq hresult
    · refine .inr ⟨by rw [← hrestaurant, hfound]; rfl, new.id, rfl, fun hroom => ?_⟩
      exact h.unused h.coupons (by rw [numbers]; omega) hroom toInt_next
    · exact { h with
        coupons := h.coupons.enter Coupon.encodes toInt_next
        within := h.within_next _ (by simp only [numbers]; omega) }

theorem markDeleted (h : Archives past t) (id : CouponId) : Serves past t (.markDeleted id) := by
  have hfound := h.coupons.found id
  cases hknown : (account past).coupon id with
  | none =>
    rw [hknown, Option.map_none] at hfound
    have hresult : handle (.markDeleted id) t = (.ok false, t) := by
      simp only [handle, Relational.markDeleted, hfound, answered]
    apply serves_of_eq hresult
    · rw [Account.Shows, hknown]
      rfl
    · exact h.aside rfl _ _
  | some c =>
    rw [hknown, Option.map_some] at hfound
    have hresult : handle (.markDeleted id) t =
        (.ok true, { t with
          coupons := t.coupons.put (Coupon.columns { c with deleted := true }) }) := by
      simp only [handle, Relational.markDeleted, hfound, answered]
      rfl
    apply serves_of_eq hresult
    · rw [Account.Shows, hknown]
      rfl
    · exact { h with
        coupons := h.coupons.alter Coupon.encodes
          (fun coupon => { coupon with deleted := true }) hknown rfl
        within := Nat.le_succ_of_le h.within }

theorem createAchievement (h : Archives past t) (input : NewAchievement) :
    Serves past t (.createAchievement input) := by
  have hrestaurant := h.findRestaurant input.restaurantId
  cases hfound : t.restaurants.find? input.restaurantId with
  | none =>
    have hresult : handle (.createAchievement input) t = (.error .missingReference, t) := by
      rw [handle, Relational.createAchievement, hfound]
    exact serves_of_eq hresult (.inl ⟨hrestaurant.symm.trans hfound, rfl⟩) (h.aside rfl _ _)
  | some restaurant =>
    let new : Achievement := input.withId ⟨Int32.ofNat (t.lastAchievement + 1)⟩
    have hresult : handle (.createAchievement input) t =
        (.ok new, { t with
          lastAchievement := t.lastAchievement + 1,
          achievements := t.achievements.put new.columns }) := by
      have hread : new.columns.read = .ok new := new.read_columns
      rw [handle, Relational.createAchievement, hfound]
      exact congrArg (Prod.mk · _) hread
    apply serves_of_eq hresult
    · refine .inr ⟨by rw [← hrestaurant, hfound]; rfl, new.id, rfl, fun hroom => ?_⟩
      exact h.unused h.achievements (by rw [numbers]; omega) hroom toInt_next
    · exact { h with
        achievements := h.achievements.enter Achievement.encodes toInt_next
        within := h.within_next _ (by simp only [numbers]; omega) }

theorem deleteAchievement (h : Archives past t) (id : AchievementId) :
    Serves past t (.deleteAchievement id) := by
  have hfound := h.achievements.found id
  cases hknown : (account past).achievement id with
  | none =>
    rw [hknown, Option.map_none] at hfound
    have hresult : handle (.deleteAchievement id) t =
        (.ok false, { t with progress := t.progress.filter fun p => p.achievementId ≠ id }) := by
      simp only [handle, Relational.deleteAchievement, hfound, answered,
        Table.erase_eq_self hfound]
      rfl
    apply serves_of_eq hresult
    · rw [Account.Shows, hknown]
      rfl
    · exact h.aside rfl _ _
  | some a =>
    rw [hknown, Option.map_some] at hfound
    have hresult : handle (.deleteAchievement id) t =
        (.ok true, { t with
          achievements := t.achievements.erase id,
          progress := t.progress.filter fun p => p.achievementId ≠ id }) := by
      simp only [handle, Relational.deleteAchievement, hfound, answered]
      rfl
    apply serves_of_eq hresult
    · rw [Account.Shows, hknown]
      rfl
    · exact { h with
        achievements := h.achievements.remove id
        within := Nat.le_succ_of_le h.within }

/-- A request that changes nothing and enters nothing. -/
theorem read (h : Archives past t) {r : Request} {answer : Except StoreError r.Answer}
    (hresult : handle r t = (answer, t)) (hx : account (⟨r, answer⟩ :: past) = account past)
    (hshows : (account past).Shows (past.length < 2147483647) ⟨r, answer⟩) : Serves past t r :=
  serves_of_eq hresult hshows (h.aside hx _ _)

theorem findUserByEmail (h : Archives past t) (email : String) :
    Serves past t (.findUserByEmail email) := by
  let p : UserRow → Bool := fun row => row.email == email
  have hunique : ∀ u v : User, (account past).user u.id = some u →
      (account past).user v.id = some v → p u.columns = true → p v.columns = true → u = v := by
    intro u v hu hv hpu hpv
    exact h.emails u v hu hv ((beq_iff_eq.1 hpu).trans (beq_iff_eq.1 hpv).symm)
  obtain ⟨found, hread, hfound⟩ := h.users.readFirst User.encodes hunique
  have hresult : handle (.findUserByEmail email) t = (.ok found, t) :=
    congrArg (Prod.mk · t) hread
  refine h.read hresult rfl ⟨found, rfl, fun u => (hfound u).trans ?_⟩
  exact and_congr_right fun _ => beq_iff_eq

theorem findUserByCredentials (h : Archives past t) (email passwordDigest : String) :
    Serves past t (.findUserByCredentials email passwordDigest) := by
  let p : UserRow → Bool := fun row => row.email == email && row.passwordDigest == passwordDigest
  have hp : ∀ u : User,
      p u.columns = true ↔ u.email = email ∧ u.passwordDigest = passwordDigest := by
    intro u
    simp [p, User.columns]
  have hunique : ∀ u v : User, (account past).user u.id = some u →
      (account past).user v.id = some v → p u.columns = true → p v.columns = true → u = v := by
    intro u v hu hv hpu hpv
    exact h.emails u v hu hv (((hp u).1 hpu).1.trans ((hp v).1 hpv).1.symm)
  obtain ⟨found, hread, hfound⟩ := h.users.readFirst User.encodes hunique
  have hresult : handle (.findUserByCredentials email passwordDigest) t = (.ok found, t) :=
    congrArg (Prod.mk · t) hread
  refine h.read hresult rfl ⟨found, rfl, fun u => (hfound u).trans ?_⟩
  exact and_congr_right fun _ => hp u

theorem findCouponWithRestaurant (h : Archives past t) (id : CouponId) :
    Serves past t (.findCouponWithRestaurant id) := by
  have hresult : handle (.findCouponWithRestaurant id) t =
      (.ok (((account past).coupon id).map
        fun c => (c, (account past).restaurant c.restaurantId)), t) := by
    rw [handle, Relational.findCouponWithRestaurant, h.coupons.readRow Coupon.encodes]
    simp only [h.findRestaurant]
    rfl
  exact h.read hresult rfl rfl

theorem listCoupons (h : Archives past t) (restaurantId : RestaurantId) :
    Serves past t (.listCoupons restaurantId) := by
  obtain ⟨coupons, hread, hordered, hmem⟩ :=
    h.coupons.readAll Coupon.encodes fun row => decide (row.restaurantId = restaurantId)
  have hresult : handle (.listCoupons restaurantId) t = (.ok coupons, t) :=
    congrArg (Prod.mk · t) hread
  refine h.read hresult rfl ⟨coupons, rfl, hordered, fun c => (hmem c).trans ?_⟩
  exact and_congr_right fun _ => decide_eq_true_iff

theorem listAchievements (h : Archives past t) (restaurantId : RestaurantId) :
    Serves past t (.listAchievements restaurantId) := by
  obtain ⟨achievements, hread, hordered, hmem⟩ :=
    h.achievements.readAll Achievement.encodes fun row => decide (row.restaurantId = restaurantId)
  have hresult : handle (.listAchievements restaurantId) t = (.ok achievements, t) :=
    congrArg (Prod.mk · t) hread
  refine h.read hresult rfl ⟨achievements, rfl, hordered, fun b => (hmem b).trans ?_⟩
  exact and_congr_right fun _ => decide_eq_true_iff

end Archives

def Spares (t t' : Relational) : Prop :=
  ∃ progress balances, t' = { t with progress := progress, balances := balances }

section Spares

variable (t : Relational) (userId : UserId) (restaurantId : RestaurantId)
  (achievementId : AchievementId)

theorem spares_commitBalance (row : BalanceRow) : Spares t (t.commitBalance row).2 := by
  unfold commitBalance
  split <;> exact ⟨_, _, rfl⟩

theorem spares_credit (points experience : Amount) :
    Spares t (t.credit userId restaurantId points experience).2 := by
  unfold credit
  split
  · exact ⟨_, _, rfl⟩
  · exact spares_commitBalance t _

theorem spares_debit (points : Amount) : Spares t (t.debit userId restaurantId points).2 := by
  unfold debit
  split
  · exact ⟨_, _, rfl⟩
  · rename_i row _
    split
    · exact ⟨_, _, rfl⟩
    · have hcommit := spares_commitBalance t { row with points := row.points - points.toInt }
      generalize t.commitBalance { row with points := row.points - points.toInt } = result at *
      obtain ⟨e | b, t'⟩ := result
      · exact hcommit
      · exact hcommit

theorem spares_createProgress (total : Amount) :
    Spares t (t.createProgress achievementId userId total).2 := by
  unfold createProgress
  split
  · exact ⟨_, _, rfl⟩
  · split <;> exact ⟨_, _, rfl⟩

theorem spares_increment : Spares t (t.increment achievementId userId).2 := by
  unfold increment
  split
  · exact ⟨_, _, rfl⟩
  · split <;> exact ⟨_, _, rfl⟩

theorem spares_complete (row : Progress) (reward : Reward) :
    Spares t (t.complete row reward).2 := by
  unfold complete
  split
  · exact ⟨_, _, rfl⟩
  · split
    · split <;> exact ⟨_, _, rfl⟩
    · exact ⟨_, _, rfl⟩

end Spares

namespace Archives

variable {past : List Exchange} {t : Relational}

theorem spared (h : Archives past t) {r : Request} (hspares : Spares t (handle r t).2)
    (hshows : (account past).Shows (past.length < 2147483647) ⟨r, (handle r t).1⟩)
    (hx : account (⟨r, (handle r t).1⟩ :: past) = account past) : Serves past t r := by
  obtain ⟨progress, balances, hafter⟩ := hspares
  refine ⟨hshows, ?_⟩
  rw [hafter]
  exact h.aside hx progress balances

theorem serves (h : Archives past t) (r : Request) : Serves past t r := by
  cases r with
  | createUser input => exact h.createUser input
  | findUser id =>
    exact h.read (congrArg (Prod.mk · t) (h.users.readRow User.encodes id)) rfl rfl
  | findUserByEmail email => exact h.findUserByEmail email
  | findUserByCredentials email passwordDigest => exact h.findUserByCredentials email passwordDigest
  | setAccountType id accountType => exact h.setAccountType id accountType
  | createRestaurant input => exact h.createRestaurant input
  | findRestaurant id =>
    exact h.read (congrArg (Except.ok · , t) (h.findRestaurant id)) rfl rfl
  | createCoupon input => exact h.createCoupon input
  | findCoupon id =>
    exact h.read (congrArg (Prod.mk · t) (h.coupons.readRow Coupon.encodes id)) rfl rfl
  | findCouponWithRestaurant id => exact h.findCouponWithRestaurant id
  | listCoupons restaurantId => exact h.listCoupons restaurantId
  | markDeleted id => exact h.markDeleted id
  | createAchievement input => exact h.createAchievement input
  | findAchievement id =>
    exact h.read (congrArg (Prod.mk · t) (h.achievements.readRow Achievement.encodes id)) rfl rfl
  | listAchievements restaurantId => exact h.listAchievements restaurantId
  | deleteAchievement id => exact h.deleteAchievement id
  | findBalance userId restaurantId => exact h.spared ⟨_, _, rfl⟩ trivial rfl
  | listBalances userId => exact h.spared ⟨_, _, rfl⟩ trivial rfl
  | listProgress userId => exact h.spared ⟨_, _, rfl⟩ trivial rfl
  | findProgress achievementId userId => exact h.spared ⟨_, _, rfl⟩ trivial rfl
  | credit userId restaurantId points experience =>
    exact h.spared (spares_credit t userId restaurantId points experience) trivial rfl
  | debit userId restaurantId points =>
    exact h.spared (spares_debit t userId restaurantId points) trivial rfl
  | createProgress achievementId userId total =>
    exact h.spared (spares_createProgress t userId achievementId total) trivial rfl
  | increment achievementId userId =>
    exact h.spared (spares_increment t userId achievementId) trivial rfl
  | complete row reward => exact h.spared (spares_complete t row reward) trivial rfl

end Archives

section Faults

variable {t : Relational} {e : StoreError}

/-- Balances that cannot be read are faults of the store, not rows that mean nothing. -/
theorem kind_of_readBalance {row : BalanceRow} (h : row.read = .error e) : e.kind = .backend := by
  by_cases hfits : row.Fits
  · obtain ⟨b, hread, -⟩ := BalanceRow.read_of_fits hfits
    rw [hread] at h
    cases h
  · obtain ⟨column, fault, hread⟩ := BalanceRow.read_of_not_fits hfits
    rw [hread] at h
    cases h
    rfl

theorem kind_of_readStored {row : Option BalanceRow} (h : readRow BalanceRow.read row = .error e) :
    e.kind = .backend := by
  cases row with
  | none => cases h
  | some row =>
    rw [readRow] at h
    cases hread : row.read with
    | error e' =>
      rw [hread] at h
      cases h
      exact kind_of_readBalance hread
    | ok b =>
      rw [hread] at h
      cases h

theorem kind_of_readBalances {rows : List BalanceRow}
    (h : readRows BalanceRow.read rows = .error e) : e.kind = .backend := by
  induction rows with
  | nil => cases h
  | cons row rows ih =>
    rw [readRows] at h
    cases hrow : row.read with
    | error e' =>
      rw [hrow] at h
      cases h
      exact kind_of_readBalance hrow
    | ok b =>
      rw [hrow] at h
      cases hrows : readRows BalanceRow.read rows with
      | error e' =>
        rw [hrows] at h
        cases h
        exact ih hrows
      | ok bs =>
        rw [hrows] at h
        cases h

theorem kind_of_creditedRow {userId : UserId} {restaurantId : RestaurantId}
    {points experience : Amount}
    (h : t.creditedRow userId restaurantId points experience = .error e) : e.kind = .backend := by
  unfold creditedRow at h
  split at h
  · cases h
  · split at h <;> cases h
    rfl

theorem kind_of_commitBalance {row : BalanceRow} (h : (t.commitBalance row).1 = .error e) :
    e.kind = .backend := by
  unfold commitBalance at h
  cases hread : row.read with
  | error e' =>
    rw [hread] at h
    cases h
    exact kind_of_readBalance hread
  | ok b =>
    rw [hread] at h
    cases h

end Faults

/-- What is answered with what is entered meets no row that means nothing. -/
theorem Archives.not_corrupt {past : List Exchange} {t : Relational} (h : Archives past t)
    (r : Request) {e : StoreError} (he : (handle r t).1 = .error e) : e.kind ≠ .corrupt := by
  have hshows := (h.serves r).shows
  rw [he] at hshows
  cases r with
  | findUser | findRestaurant | findCoupon | findCouponWithRestaurant | findAchievement
  | setAccountType | markDeleted | deleteAchievement => cases hshows
  | findUserByEmail | findUserByCredentials | listCoupons | listAchievements =>
    obtain ⟨_, hanswer, -⟩ := hshows
    cases hanswer
  | createRestaurant input =>
    obtain ⟨_, hanswer, -⟩ := hshows
    cases hanswer
  | createUser input =>
    rcases hshows with ⟨-, hanswer⟩ | ⟨-, id, hanswer, -⟩ <;> cases hanswer
    decide
  | createCoupon input =>
    rcases hshows with ⟨-, hanswer⟩ | ⟨-, id, hanswer, -⟩ <;> cases hanswer
    decide
  | createAchievement input =>
    rcases hshows with ⟨-, hanswer⟩ | ⟨-, id, hanswer, -⟩ <;> cases hanswer
    decide
  | listProgress | findProgress | increment => cases he
  | findBalance userId restaurantId => simp [kind_of_readStored he]
  | listBalances userId => simp [kind_of_readBalances he]
  | credit userId restaurantId points experience =>
    simp only [handle, credit] at he
    split at he
    · rename_i hrow
      cases he
      simp [kind_of_creditedRow hrow]
    · simp [kind_of_commitBalance he]
  | debit userId restaurantId points =>
    simp only [handle, debit] at he
    split at he
    · cases he
    · split at he
      · cases he
      · split at he
        · rename_i hcommit
          cases he
          simp [kind_of_commitBalance (congrArg Prod.fst hcommit)]
        · cases he
  | createProgress achievementId userId total =>
    simp only [handle, createProgress] at he
    split at he
    · cases he
      decide
    · split at he <;> cases he
      decide
  | complete row reward =>
    simp only [handle, complete] at he
    split at he
    · cases he
    · split at he
      · split at he
        · rename_i hrow
          cases he
          simp [kind_of_creditedRow hrow]
        · cases he
      · cases he

/-- Whatever has been asked of a store that was empty, every further request about users,
restaurants, coupons and achievements is answered with what was created, as the exchanges tell it,
and no request at all meets a row that means nothing. -/
theorem entries_shown (requests : List Request) (r : Request) :
    let past := (Relational.handle.exchanges requests empty).reverse
    let t := Relational.handle.after requests empty
    (account past).Shows (past.length < 2147483647) ⟨r, (handle r t).1⟩ ∧
      ∀ e, (handle r t).1 = .error e → e.kind ≠ .corrupt := by
  have harchives := Handler.after_induction (P := Archives) handle
    (fun past t r h => (h.serves r).archives) requests archives_empty
  rw [List.append_nil] at harchives
  exact ⟨(harchives.serves r).shows, fun e he => harchives.not_corrupt r he⟩

def untilLeapDay : DateWindow := ⟨.newYear, ⟨2024, 2, 29, by decide⟩, by decide⟩

/-- A house with a coupon that is later deleted, an achievement with a window, and a user who
becomes its owner. -/
def openingDay : List Request :=
  [.createRestaurant ⟨"Tea House", "Main Street"⟩,
    .createUser ⟨"Ada", "ada@home", "digest", .customer⟩,
    .createCoupon ⟨⟨1⟩, "", "\n", -1, 7, .indefinite⟩,
    .createAchievement ⟨⟨1⟩, "Welcome", -5, 10,
      ⟨.purchase "tea;" 3, .window untilLeapDay⟩⟩,
    .setAccountType ⟨1⟩ .owner, .markDeleted ⟨1⟩]

/-- After that the three are shown as they were created, but for what was changed. -/
theorem openingDay_shown :
    let t := Relational.handle.after openingDay empty
    (handle (.findUser ⟨1⟩) t).1 = .ok (some ⟨⟨1⟩, "Ada", "ada@home", "digest", .owner⟩) ∧
      (handle (.findCoupon ⟨1⟩) t).1 =
        .ok (some ⟨⟨1⟩, ⟨1⟩, "", "\n", -1, 7, .indefinite, true⟩) ∧
      (handle (.findAchievement ⟨1⟩) t).1 = .ok (some ⟨⟨1⟩, ⟨1⟩, "Welcome", -5, 10,
        ⟨.purchase "tea;" 3, .window untilLeapDay⟩⟩) := by
  have huser := (entries_shown openingDay (.findUser ⟨1⟩)).1
  have hcoupon := (entries_shown openingDay (.findCoupon ⟨1⟩)).1
  have hachievement := (entries_shown openingDay (.findAchievement ⟨1⟩)).1
  exact ⟨huser, hcoupon, hachievement⟩

end Relational

end Loyalty
