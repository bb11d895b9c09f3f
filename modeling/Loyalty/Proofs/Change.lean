import Loyalty.Proofs.Exchange
import Loyalty.Store.Fault
import Loyalty.Store.Memory

/-!
# What an answer does to the store

A request is answered by the store, or by a fault that leaves the store alone. `Memory.Change` lists
everything that can come of it, each write with its guard. All facts on runs are drawn from this
list, which is the only place where the requests are looked into one by one.
-/

namespace Loyalty

def Exchange.isEffective : Exchange → Bool
  | ⟨.createUser _, .ok _⟩ => true
  | ⟨.setAccountType .., .ok true⟩ => true
  | ⟨.createRestaurant _, .ok _⟩ => true
  | ⟨.createCoupon _, .ok _⟩ => true
  | ⟨.markDeleted _, .ok true⟩ => true
  | ⟨.credit .., .ok _⟩ => true
  | ⟨.debit .., .ok (some _)⟩ => true
  | ⟨.createAchievement _, .ok _⟩ => true
  | ⟨.deleteAchievement _, .ok true⟩ => true
  | ⟨.createProgress .., .ok _⟩ => true
  | ⟨.increment .., .ok (some _)⟩ => true
  | ⟨.complete .., .ok true⟩ => true
  | _ => false

/-- A fault answers no row at all. -/
theorem Fault.onKey_answer {fault : Fault} {r : Request} {answer : Except StoreError r.Answer}
    (h : fault.answer? r = some answer) : Exchange.OnKey ⟨r, answer⟩ := by
  cases fault with
  | failure e =>
    cases h
    cases r <;> trivial
  | absent =>
    obtain ⟨nothing, habsent, rfl⟩ := Option.map_eq_some_iff.1 h
    cases r <;> cases habsent <;> trivial

theorem Fault.isEffective_answer {fault : Fault} {r : Request}
    {answer : Except StoreError r.Answer} (h : fault.answer? r = some answer) :
    Exchange.isEffective ⟨r, answer⟩ = false := by
  cases fault with
  | failure e =>
    cases h
    cases r <;> rfl
  | absent =>
    obtain ⟨nothing, habsent, rfl⟩ := Option.map_eq_some_iff.1 h
    cases r <;> cases habsent <;> rfl

def Progress.counted (row : Progress) : Progress := { row with progress := row.progress + 1 }

namespace Memory

/-- What may be answered to a request, and what becomes of the store. -/
inductive Answers (s : Memory) (r : Request) : Except StoreError r.Answer → Memory → Prop
  | served : Answers s r (handle r s).1 (handle r s).2
  | disturbed {fault : Fault} {answer : Except StoreError r.Answer}
      (h : fault.answer? r = some answer) : Answers s r answer s

inductive Change (s : Memory) : Exchange → Memory → Prop
  | nothing {x : Exchange} (h : x.isEffective = false) : Change s x s
  | createUser {input : NewUser} {user : User} (hfree : ∀ u ∈ s.users.rows, u.email ≠ input.email)
      (huser : user =
        ⟨⟨s.nextId⟩, input.name, input.email, input.passwordDigest, input.accountType⟩) :
      Change s ⟨.createUser input, .ok user⟩
        { s with created := s.created + 1, users := s.users.put user }
  | setAccountType {id : UserId} {accountType : AccountType} {user : User}
      (hfound : s.users.find? id = some user) :
      Change s ⟨.setAccountType id accountType, .ok true⟩
        { s with users := s.users.put { user with accountType := accountType } }
  | createRestaurant {input : NewRestaurant} {restaurant : Restaurant}
      (hrestaurant : restaurant = ⟨⟨s.nextId⟩, input.name, input.address⟩) :
      Change s ⟨.createRestaurant input, .ok restaurant⟩
        { s with created := s.created + 1, restaurants := s.restaurants.put restaurant }
  | createCoupon {input : NewCoupon} {coupon : Coupon}
      (hcoupon : coupon =
        ⟨⟨s.nextId⟩, input.restaurantId, input.name, input.description, input.points, input.level,
          input.validity, false⟩) :
      Change s ⟨.createCoupon input, .ok coupon⟩
        { s with created := s.created + 1, coupons := s.coupons.put coupon }
  | markDeleted {id : CouponId} {coupon : Coupon} (hfound : s.coupons.find? id = some coupon) :
      Change s ⟨.markDeleted id, .ok true⟩
        { s with coupons := s.coupons.put { coupon with deleted := true } }
  | credit {userId : UserId} {restaurantId : RestaurantId} {points experience : Amount}
      {balance : Balance}
      (hcredit : credited? (s.balanceOf userId restaurantId) points experience = some balance) :
      Change s ⟨.credit userId restaurantId points experience, .ok balance⟩
        { s with balances := s.balances.put balance }
  | debit {userId : UserId} {restaurantId : RestaurantId} {points rest : Amount} {balance : Balance}
      (hfound : s.balances.find? (userId, restaurantId) = some balance)
      (hcovered : ¬ balance.points < points) (hrest : balance.points.sub? points = some rest) :
      Change s ⟨.debit userId restaurantId points, .ok (some { balance with points := rest })⟩
        { s with balances := s.balances.put { balance with points := rest } }
  | createAchievement {input : NewAchievement} {achievement : Achievement}
      (hachievement : achievement =
        ⟨⟨s.nextId⟩, input.restaurantId, input.name, input.experience, input.points,
          input.requirement⟩) :
      Change s ⟨.createAchievement input, .ok achievement⟩
        { s with created := s.created + 1, achievements := s.achievements.put achievement }
  | deleteAchievement {id : AchievementId} {achievement : Achievement}
      (hfound : s.achievements.find? id = some achievement) :
      Change s ⟨.deleteAchievement id, .ok true⟩
        { s with
          achievements := s.achievements.erase id,
          progress := s.progress.filter fun p => p.achievementId ≠ id }
  | createProgress {achievementId : AchievementId} {userId : UserId} {total : Amount}
      (hfree : s.progress.find? (userId, achievementId) = none) :
      Change s ⟨.createProgress achievementId userId total, .ok ⟨userId, achievementId, 0, total⟩⟩
        { s with progress := s.progress.put ⟨userId, achievementId, 0, total⟩ }
  | increment {achievementId : AchievementId} {userId : UserId} {row : Progress}
      (hfound : s.progress.find? (userId, achievementId) = some row)
      (hopen : row.progress < row.total) :
      Change s ⟨.increment achievementId userId, .ok (some row.counted)⟩
        { s with progress := s.progress.put row.counted }
  | complete {row stored : Progress} {reward : Reward} {balance : Balance}
      (hfound : s.progress.find? (row.userId, row.achievementId) = some stored)
      (hfull : stored.progress = stored.total)
      (hcredit : credited? (s.balanceOf row.userId reward.restaurantId) reward.points
        reward.experience = some balance) :
      Change s ⟨.complete row reward, .ok true⟩
        { s with
          progress := s.progress.erase (row.userId, row.achievementId),
          balances := s.balances.put balance }

theorem change_handle (s : Memory) (r : Request) :
    s.Change ⟨r, (handle r s).1⟩ (handle r s).2 := by
  cases r with
  | createUser input =>
    simp only [handle, createUser]
    split
    · exact .nothing rfl
    · rename_i hfree
      refine .createUser ?_ rfl
      simpa using hfree
  | setAccountType id accountType =>
    simp only [handle, setAccountType]
    split
    · exact .nothing rfl
    · rename_i hfound
      exact .setAccountType hfound
  | createRestaurant input => exact .createRestaurant rfl
  | createCoupon input => exact .createCoupon rfl
  | markDeleted id =>
    simp only [handle, markDeleted]
    split
    · exact .nothing rfl
    · rename_i hfound
      exact .markDeleted hfound
  | credit userId restaurantId points experience =>
    simp only [handle, credit]
    split
    · exact .nothing rfl
    · rename_i hcredit
      exact .credit hcredit
  | debit userId restaurantId points =>
    simp only [handle, debit]
    split
    · exact .nothing rfl
    · rename_i balance hfound
      split
      · exact .nothing rfl
      · rename_i hcovered
        split
        · exact .nothing rfl
        · rename_i rest hrest
          exact .debit hfound hcovered hrest
  | createAchievement input => exact .createAchievement rfl
  | deleteAchievement id =>
    simp only [handle, deleteAchievement]
    split
    · exact .nothing rfl
    · rename_i hfound
      exact .deleteAchievement hfound
  | createProgress achievementId userId total =>
    simp only [handle, createProgress]
    split
    · exact .nothing rfl
    · rename_i hfree
      exact .createProgress hfree
  | increment achievementId userId =>
    simp only [handle, increment]
    split
    · exact .nothing rfl
    · rename_i row hfound
      split
      · rename_i hopen
        exact .increment hfound hopen
      · exact .nothing rfl
  | complete row reward =>
    simp only [handle, complete, credit]
    split
    · exact .nothing rfl
    · rename_i stored hfound
      split
      · rename_i hfull
        cases hcredit : credited? (s.balanceOf row.userId reward.restaurantId) reward.points
            reward.experience with
        | none => exact .nothing rfl
        | some balance => exact .complete hfound hfull hcredit
      · exact .nothing rfl
  | _ => exact .nothing rfl

theorem onKey_handle (s : Memory) (r : Request) : Exchange.OnKey ⟨r, (handle r s).1⟩ := by
  cases r with
  | findCoupon id =>
    simp only [handle]
    cases hfound : s.coupons.find? id with
    | none => trivial
    | some coupon => exact (Table.find?_eq_some_iff.1 hfound).2
  | findAchievement id =>
    simp only [handle]
    cases hfound : s.achievements.find? id with
    | none => trivial
    | some achievement => exact (Table.find?_eq_some_iff.1 hfound).2
  | findProgress achievementId userId =>
    simp only [handle]
    cases hfound : s.progress.find? (userId, achievementId) with
    | none => trivial
    | some row => exact Prod.mk.inj (Table.find?_eq_some_iff.1 hfound).2
  | createProgress achievementId userId total =>
    simp only [handle, createProgress]
    split
    · trivial
    · exact ⟨rfl, rfl⟩
  | increment achievementId userId =>
    simp only [handle, increment]
    split
    · trivial
    · rename_i row hfound
      split
      · exact Prod.mk.inj (Table.find?_eq_some_iff.1 hfound).2
      · trivial
  | _ => trivial

namespace Answers

variable {s s' : Memory} {r : Request} {answer : Except StoreError r.Answer}

/-- Everything that can come of a request. -/
theorem change (h : s.Answers r answer s') : s.Change ⟨r, answer⟩ s' := by
  cases h with
  | served => exact change_handle s r
  | disturbed h => exact .nothing (Fault.isEffective_answer h)

theorem onKey (h : s.Answers r answer s') : Exchange.OnKey ⟨r, answer⟩ := by
  cases h with
  | served => exact onKey_handle s r
  | disturbed h => exact Fault.onKey_answer h

theorem served_or_disturbed (h : s.Answers r answer s') :
    (answer = (handle r s).1 ∧ s' = (handle r s).2) ∨
      ∃ fault : Fault, fault.answer? r = some answer := by
  cases h with
  | served => exact Or.inl ⟨rfl, rfl⟩
  | disturbed h => exact Or.inr ⟨_, h⟩

/-- An achievement that is shown is stored. -/
theorem achievement {id : AchievementId} {achievement : Achievement}
    (h : s.Answers (.findAchievement id) (.ok (some achievement)) s') :
    s.achievements.find? id = some achievement := by
  rcases h.served_or_disturbed with ⟨hanswer, -⟩ | ⟨fault, hfault⟩
  · exact (Except.ok.inj hanswer).symm
  · cases fault <;> cases hfault

/-- A coupon that is shown is stored. -/
theorem coupon {id : CouponId} {coupon : Coupon}
    (h : s.Answers (.findCoupon id) (.ok (some coupon)) s') : s.coupons.find? id = some coupon := by
  rcases h.served_or_disturbed with ⟨hanswer, -⟩ | ⟨fault, hfault⟩
  · exact (Except.ok.inj hanswer).symm
  · cases fault <;> cases hfault

end Answers

end Memory

end Loyalty
