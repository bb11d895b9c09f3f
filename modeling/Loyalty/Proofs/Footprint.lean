import Loyalty.Proofs.Contract

/-!
# The footprint of an operation

An operation works on the progress row of one pair at most, deletes no achievement but the one that
it names, and enters nothing new unless it is there for that. So whatever it is answered, the rows
of all other pairs are out of its reach.
-/

namespace Loyalty

namespace Request

def rowKey? : Request → Option (UserId × AchievementId)
  | .createProgress achievementId userId _ => some (userId, achievementId)
  | .increment achievementId userId => some (userId, achievementId)
  | .complete row _ => some (row.userId, row.achievementId)
  | _ => none

def withdraws? : Request → Option AchievementId
  | .deleteAchievement id => some id
  | _ => none

def creates : Request → Bool
  | .createUser _ => true
  | .createRestaurant _ => true
  | .createCoupon _ => true
  | .createAchievement _ => true
  | _ => false

inductive OnPair (userId : UserId) (achievementId : AchievementId) : Request → Prop
  | findAchievement : OnPair userId achievementId (.findAchievement achievementId)
  | findProgress : OnPair userId achievementId (.findProgress achievementId userId)
  | createProgress {total : Amount} :
    OnPair userId achievementId (.createProgress achievementId userId total)
  | increment : OnPair userId achievementId (.increment achievementId userId)
  | complete {row : Progress} {reward : Reward} (huser : row.userId = userId)
    (hachievement : row.achievementId = achievementId) :
    OnPair userId achievementId (.complete row reward)

inductive OnPurchase (userId : UserId) : Request → Prop
  | findCoupon {id : CouponId} : OnPurchase userId (.findCoupon id)
  | findBalance {restaurantId : RestaurantId} : OnPurchase userId (.findBalance userId restaurantId)
  | debit {restaurantId : RestaurantId} {points : Amount} :
    OnPurchase userId (.debit userId restaurantId points)

/-- The request works on no row but that of a given pair, deletes no achievement but a given one,
and enters nothing unless that is allowed. -/
structure Within (key : Option (UserId × AchievementId)) (gone : Option AchievementId)
    (entry : Bool) (r : Request) : Prop where
  row : r.rowKey? = none ∨ r.rowKey? = key
  deletion : r.withdraws? = none ∨ r.withdraws? = gone
  creation : r.creates = false ∨ entry = true

end Request

namespace Operation

def rowKey? : Operation → Option (UserId × AchievementId)
  | .advance row => some (row.userId, row.achievementId)
  | .complete row => some (row.userId, row.achievementId)
  | .record _ userId achievementId => some (userId, achievementId)
  | _ => none

def withdraws? : Operation → Option AchievementId
  | .deleteAchievement id => some id
  | _ => none

def creates : Operation → Bool
  | .register _ => true
  | .createRestaurant _ => true
  | .createCoupon _ => true
  | .createAchievement _ => true
  | .createCompactAchievement _ => true
  | _ => false

theorem withdraws?_of_rowKey? {op : Operation} (h : op.rowKey? ≠ none) : op.withdraws? = none := by
  cases op with
  | deleteAchievement id => exact absurd rfl h
  | _ => rfl

end Operation

/-- A script that keeps to two judgements keeps to both at once. -/
theorem Script.Keeps.and {ε α : Type} {asks asks' : List Exchange → Request → Prop}
    {ends ends' : List Exchange → Except ε α → Prop} {past : List Exchange} {p : Script ε α}
    (h : p.Keeps asks ends past) (h' : p.Keeps asks' ends' past) :
    p.Keeps (fun past r => asks past r ∧ asks' past r)
      (fun past result => ends past result ∧ ends' past result) past := by
  induction p generalizing past with
  | done a => exact ⟨h, h'⟩
  | fail e => exact ⟨h, h'⟩
  | call r next ih =>
    exact ⟨⟨h.1, h'.1⟩, fun answer hkey => ih answer (h.2 answer hkey) (h'.2 answer hkey)⟩

/-- A row that comes out is that of the pair. -/
def FoundOn {ε : Type} (userId : UserId) (achievementId : AchievementId) :
    Except ε Progress → Prop
  | .ok row => row.userId = userId ∧ row.achievementId = achievementId
  | .error _ => True

namespace Achievements

variable {past : List Exchange} (userId : UserId) (achievementId : AchievementId)

abbrev Works (_ : List Exchange) (r : Request) : Prop :=
  r.Within (some (userId, achievementId)) none false

theorem works_of_onPair (past : List Exchange) {r : Request} (h : r.OnPair userId achievementId) :
    Works userId achievementId past r := by
  cases h with
  | findAchievement | findProgress => exact ⟨Or.inl rfl, Or.inl rfl, Or.inl rfl⟩
  | createProgress | increment => exact ⟨Or.inr rfl, Or.inl rfl, Or.inl rfl⟩
  | complete huser hachievement =>
    subst huser hachievement
    exact ⟨Or.inr rfl, Or.inl rfl, Or.inl rfl⟩

theorem keeps_pair_findProgress :
    (findProgress achievementId userId).Keeps (fun _ r => r.OnPair userId achievementId)
      (fun _ => FoundOn userId achievementId) past := by
  refine ⟨.findProgress, ?_⟩
  rintro (e | _ | row) hkey
  · trivial
  · trivial
  · exact hkey

theorem keeps_pair_count :
    (count achievementId userId).Keeps (fun _ r => r.OnPair userId achievementId)
      (fun _ => FoundOn userId achievementId) past := by
  refine ⟨.increment, ?_⟩
  rintro (e | _ | row) hkey
  · trivial
  · change (findProgress achievementId userId >>= _).Keeps _ _ _
    apply (keeps_pair_findProgress userId achievementId).bind
    · intro past row hrow
      exact Script.Keeps.require (fun _ => hrow) fun _ => trivial
    · exact fun past e h => h
  · exact hkey

theorem keeps_pair_complete (row : Progress) :
    (complete row).Keeps (fun _ r => r.OnPair row.userId row.achievementId) (fun _ _ => True)
      past := by
  refine Script.Keeps.require (fun _ => ?_) fun _ => trivial
  refine ⟨.findAchievement, ?_⟩
  rintro (e | _ | achievement) _
  · trivial
  · trivial
  · refine ⟨.complete rfl rfl, ?_⟩
    rintro (e | _ | _) _ <;> trivial

theorem keeps_pair_advance (row : Progress) :
    (advance row).Keeps (fun _ r => r.OnPair row.userId row.achievementId) (fun _ _ => True)
      past := by
  apply (keeps_pair_count row.userId row.achievementId).bind
  · rintro past counted ⟨huser, hachievement⟩
    split
    · rw [← huser, ← hachievement]
      apply (keeps_pair_complete counted).bind
      · exact fun past reward _ => trivial
      · exact fun past e _ => trivial
    · trivial
  · exact fun past e _ => trivial

theorem keeps_pair_start (total : Amount) :
    (start achievementId userId total).Keeps (fun _ r => r.OnPair userId achievementId)
      (fun _ => FoundOn userId achievementId) past := by
  refine ⟨.createProgress, ?_⟩
  rintro (e | row) hkey
  · change (if e.kind = .conflict then _ else _ : Script _ _).Keeps _ _ _
    split
    · exact keeps_pair_findProgress userId achievementId
    · trivial
  · exact hkey

theorem keeps_pair_record (today : Date) :
    (record today userId achievementId).Keeps (fun _ r => r.OnPair userId achievementId)
      (fun _ _ => True) past := by
  have hadvance : ∀ (past : List Exchange) (row : Progress), row.userId = userId →
      row.achievementId = achievementId →
        (advance row).Keeps (fun _ r => r.OnPair userId achievementId) (fun _ _ => True) past := by
    rintro past row rfl rfl
    exact keeps_pair_advance row
  refine ⟨.findAchievement, ?_⟩
  rintro (e | _ | achievement) _
  · trivial
  · trivial
  · refine Script.Keeps.require (fun _ => ?_) fun _ => trivial
    refine ⟨.findProgress, ?_⟩
    rintro (e | _ | row) hkey
    · trivial
    · apply (keeps_pair_start userId achievementId achievement.target).bind
      · exact fun past row hrow => hadvance past row hrow.1 hrow.2
      · exact fun past e _ => trivial
    · exact hadvance _ row hkey.1 hkey.2

end Achievements

theorem Coupons.keeps_purchase {past : List Exchange} (curve : LevelCurve) (today : Date)
    (userId : UserId) (couponId : CouponId) :
    (redeem curve today userId couponId).Keeps (fun _ r => r.OnPurchase userId) (fun _ _ => True)
      past := by
  refine ⟨.findCoupon, ?_⟩
  rintro (e | _ | coupon) _
  · trivial
  · trivial
  · refine Script.Keeps.require (fun _ => ⟨.findBalance, ?_⟩) fun _ => trivial
    rintro (e | found) _
    · trivial
    · refine Script.Keeps.require (fun _ => ?_) fun _ => trivial
      split
      · trivial
      · refine Script.Keeps.require (fun _ => ⟨.debit, ?_⟩) fun _ => trivial
        rintro (e | _ | rest) _ <;> trivial

namespace Operation

/-- Every operation stays within its footprint, whatever it is answered. -/
theorem keeps_within (op : Operation) :
    op.script.Keeps (fun _ r => r.Within op.rowKey? op.withdraws? op.creates) (fun _ _ => True)
      [] := by
  cases op with
  | register input =>
    rw [script, Script.keeps_relabel]
    refine ⟨⟨Or.inl rfl, Or.inl rfl, Or.inl rfl⟩, ?_⟩
    rintro (e | holder) _
    · trivial
    · dsimp only [Script.bind]
      split
      · trivial
      · refine ⟨⟨Or.inl rfl, Or.inl rfl, Or.inr rfl⟩, ?_⟩
        rintro (e | user) _ <;> trivial
  | createCoupon form =>
    rw [script, Coupons.create]
    split
    · trivial
    · refine ⟨⟨Or.inl rfl, Or.inl rfl, Or.inr rfl⟩, ?_⟩
      rintro (e | coupon) _ <;> trivial
  | redeem curve today userId couponId =>
    rw [script, Script.keeps_relabel]
    refine (Coupons.keeps_purchase curve today userId couponId).mono (fun _ r hr => ?_)
      fun _ _ h => h
    cases hr <;> exact ⟨Or.inl rfl, Or.inl rfl, Or.inl rfl⟩
  | createAchievement input =>
    rw [script, Achievements.create]
    split
    · trivial
    · refine ⟨⟨Or.inl rfl, Or.inl rfl, Or.inr rfl⟩, ?_⟩
      rintro (e | achievement) _ <;> trivial
  | createCompactAchievement form =>
    rw [script, Achievements.createCompact]
    split
    · trivial
    · rw [Achievements.create]
      split
      · trivial
      · refine ⟨⟨Or.inl rfl, Or.inl rfl, Or.inr rfl⟩, ?_⟩
        rintro (e | achievement) _ <;> trivial
  | advance row =>
    rw [script, Script.keeps_relabel]
    exact (Achievements.keeps_pair_advance row).mono
      (fun past _ => Achievements.works_of_onPair _ _ past) fun _ _ h => h
  | complete row =>
    rw [script, Script.keeps_relabel]
    exact (Achievements.keeps_pair_complete row).mono
      (fun past _ => Achievements.works_of_onPair _ _ past) fun _ _ h => h
  | record today userId achievementId =>
    rw [script, Script.keeps_relabel]
    exact (Achievements.keeps_pair_record userId achievementId today).mono
      (fun past _ => Achievements.works_of_onPair _ _ past) fun _ _ h => h
  | deleteAchievement id =>
    refine ⟨⟨Or.inl rfl, Or.inr rfl, Or.inl rfl⟩, ?_⟩
    rintro (e | _ | _) _ <;> trivial
  | createRestaurant input =>
    refine ⟨⟨Or.inl rfl, Or.inl rfl, Or.inr rfl⟩, ?_⟩
    rintro (e | restaurant) _ <;> trivial
  | authenticate _ _ | listCoupons _ | listValidCoupons _ _ | listBalances _
  | listAchievements _ | listActiveAchievements _ _ | listUnstarted _ _ | listProgress _
  | findBalance _ _ | findRestaurant _ | credit _ _ _ _ | debit _ _ _ =>
    refine ⟨⟨Or.inl rfl, Or.inl rfl, Or.inl rfl⟩, ?_⟩
    rintro (e | a) _ <;> trivial
  | setAccountType _ _ | softDeleteCoupon _ | getUser _ | getProfile _ | getDisplayName _
  | getCoupon _ | getCouponDetails _ _ | restaurantIdOfCoupon _ | getAchievement _ | getReward _
  | findProgress _ _ =>
    refine ⟨⟨Or.inl rfl, Or.inl rfl, Or.inl rfl⟩, ?_⟩
    rintro (e | _ | a) _ <;> trivial
  | restaurantOfCoupon _ =>
    refine ⟨⟨Or.inl rfl, Or.inl rfl, Or.inl rfl⟩, ?_⟩
    rintro (e | _ | ⟨coupon, _ | restaurant⟩) _ <;> trivial

end Operation

end Loyalty
