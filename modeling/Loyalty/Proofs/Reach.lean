import Loyalty.Proofs.Account
import Loyalty.Proofs.Sequence

/-!
# The reach of a script

A script is judged here by the requests that it may make at all, whatever it is answered. Of all
operations only those on accounts ask about users. Only eight write records, which are the rows that
are kept under an identifier of their own; such a call is refused, or writes the one record that it
is there for. All other calls leave the users, the restaurants, the coupons and the achievements as
they are.
-/

namespace Loyalty

namespace Request

def onUsers : Request → Bool
  | .createUser _ => true
  | .findUser _ => true
  | .findUserByEmail _ => true
  | .findUserByCredentials .. => true
  | .setAccountType .. => true
  | _ => false

def revises : Request → Bool
  | .createUser _ => true
  | .setAccountType .. => true
  | .createRestaurant _ => true
  | .createCoupon _ => true
  | .markDeleted _ => true
  | .createAchievement _ => true
  | .deleteAchievement _ => true
  | _ => false

inductive OnRow : Request → Prop
  | findAchievement {id : AchievementId} : OnRow (.findAchievement id)
  | findProgress {achievementId : AchievementId} {userId : UserId} :
    OnRow (.findProgress achievementId userId)
  | createProgress {achievementId : AchievementId} {userId : UserId} {total : Amount} :
    OnRow (.createProgress achievementId userId total)
  | increment {achievementId : AchievementId} {userId : UserId} :
    OnRow (.increment achievementId userId)
  | complete {row : Progress} {reward : Reward} : OnRow (.complete row reward)

end Request

namespace Script

variable {ε δ α β : Type} {allowed : Request → Prop}

/-- Whatever it is answered, a script makes no requests but those that are allowed. -/
def OnlyAsks (allowed : Request → Prop) (p : Script ε α) : Prop :=
  ∀ past, p.Keeps (fun _ r => allowed r) (fun _ _ => True) past

theorem onlyAsks_done (a : α) : (done a : Script ε α).OnlyAsks allowed := fun _ => trivial

theorem onlyAsks_fail (e : ε) : (fail e : Script ε α).OnlyAsks allowed := fun _ => trivial

theorem onlyAsks_call {r : Request} {next : Except StoreError r.Answer → Script ε α}
    (hr : allowed r) (hnext : ∀ answer, (next answer).OnlyAsks allowed) :
    (call r next).OnlyAsks allowed := fun _ => ⟨hr, fun answer _ => hnext answer _⟩

theorem OnlyAsks.bind {p : Script ε α} {f : α → Script ε β} (h : p.OnlyAsks allowed)
    (hf : ∀ a, (f a).OnlyAsks allowed) : (p >>= f).OnlyAsks allowed := fun past =>
  (h past).bind (fun past a _ => hf a past) fun _ _ _ => trivial

theorem onlyAsks_ask (report : StoreError → ε) {r : Request} (hr : allowed r) :
    (ask report r).OnlyAsks allowed := by
  apply onlyAsks_call hr
  rintro (e | a)
  · exact onlyAsks_fail (report e)
  · exact onlyAsks_done a

theorem onlyAsks_ofOption (e : ε) (x : Option α) : (ofOption e x).OnlyAsks allowed := by
  cases x with
  | none => exact onlyAsks_fail e
  | some a => exact onlyAsks_done a

theorem onlyAsks_require (condition : Bool) (e : ε) : (require condition e).OnlyAsks allowed := by
  cases condition with
  | false => exact onlyAsks_fail e
  | true => exact onlyAsks_done ()

theorem OnlyAsks.relabel {p : Script ε α} (h : p.OnlyAsks allowed) (onError : ε → δ)
    (onValue : α → β) : (p.relabel onError onValue).OnlyAsks allowed := fun past =>
  (keeps_relabel onError onValue p).2 (h past)

theorem OnlyAsks.mono {allowed' : Request → Prop} {p : Script ε α} (h : p.OnlyAsks allowed)
    (hallowed : ∀ r, allowed r → allowed' r) : p.OnlyAsks allowed' := fun past =>
  (h past).mono (fun _ r hr => hallowed r hr) fun _ _ _ => trivial

/-- What all allowed requests keep, a run keeps. -/
theorem OnlyAsks.run {p : Script ε α} (h : p.OnlyAsks allowed) {P : Memory → Prop} {s : Memory}
    (hP : P s) (hstep : ∀ s r, P s → allowed r → P (Memory.handle r s).2) :
    P (p.run Memory.handle s).2 := by
  obtain ⟨-, hafter, -⟩ := (h []).run (P := fun _ s => P s) hP fun _ s r => hstep s r
  exact hafter

end Script

open Script

namespace Achievements

theorem onRow_of_onPair {userId : UserId} {achievementId : AchievementId} {r : Request}
    (h : r.OnPair userId achievementId) : r.OnRow := by
  cases h with
  | findAchievement => exact .findAchievement
  | findProgress => exact .findProgress
  | createProgress => exact .createProgress
  | increment => exact .increment
  | complete => exact .complete

theorem onlyAsks_complete (row : Progress) : (complete row).OnlyAsks Request.OnRow := fun _ =>
  (keeps_pair_complete row).mono (fun _ _ => onRow_of_onPair) fun _ _ h => h

theorem onlyAsks_advance (row : Progress) : (advance row).OnlyAsks Request.OnRow := fun _ =>
  (keeps_pair_advance row).mono (fun _ _ => onRow_of_onPair) fun _ _ h => h

theorem onlyAsks_record (today : Date) (userId : UserId) (achievementId : AchievementId) :
    (record today userId achievementId).OnlyAsks Request.OnRow := fun _ =>
  (keeps_pair_record userId achievementId today).mono (fun _ _ => onRow_of_onPair) fun _ _ h => h

end Achievements

namespace Operation

def onAccounts : Operation → Bool
  | .register _ => true
  | .authenticate .. => true
  | .setAccountType .. => true
  | .getUser _ => true
  | .getProfile _ => true
  | .getDisplayName _ => true
  | _ => false

def revises : Operation → Bool
  | .register _ => true
  | .setAccountType .. => true
  | .createRestaurant _ => true
  | .createCoupon _ => true
  | .softDeleteCoupon _ => true
  | .createAchievement _ => true
  | .createCompactAchievement _ => true
  | .deleteAchievement _ => true
  | _ => false

/-- The request is about users only in an operation on accounts, and writes a record only in one
that is there for that. -/
structure Reaches (op : Operation) (r : Request) : Prop where
  users : r.onUsers = true → op.onAccounts = true
  records : r.revises = true → op.revises = true

variable {op : Operation} {r : Request}

theorem reaches_of_neither (husers : r.onUsers = false) (hrecords : r.revises = false) :
    op.Reaches r :=
  ⟨fun h => absurd (husers.symm.trans h) Bool.false_ne_true,
    fun h => absurd (hrecords.symm.trans h) Bool.false_ne_true⟩

theorem reaches_of_users (hop : op.onAccounts = true) (hrecords : r.revises = false) :
    op.Reaches r :=
  ⟨fun _ => hop, fun h => absurd (hrecords.symm.trans h) Bool.false_ne_true⟩

theorem reaches_of_records (husers : r.onUsers = false) (hop : op.revises = true) :
    op.Reaches r :=
  ⟨fun h => absurd (husers.symm.trans h) Bool.false_ne_true, fun _ => hop⟩

theorem reaches_of_onRow (h : r.OnRow) : op.Reaches r := by
  cases h <;> exact reaches_of_neither rfl rfl

theorem reaches_of_onPurchase {userId : UserId} (h : r.OnPurchase userId) : op.Reaches r := by
  cases h <;> exact reaches_of_neither rfl rfl

theorem onlyAsks_redeem (curve : LevelCurve) (today : Date) (userId : UserId)
    (couponId : CouponId) : (Coupons.redeem curve today userId couponId).OnlyAsks op.Reaches :=
  fun _ => (Coupons.keeps_purchase curve today userId couponId).mono
    (fun _ _ => reaches_of_onPurchase) fun _ _ h => h

theorem onlyAsks_script (op : Operation) : op.script.OnlyAsks op.Reaches := by
  cases op with
  | register input =>
    refine OnlyAsks.relabel ?_ _ _
    apply (onlyAsks_ask _ (reaches_of_users rfl rfl)).bind
    intro holder
    split
    · exact onlyAsks_fail _
    · apply onlyAsks_call ⟨fun _ => rfl, fun _ => rfl⟩
      rintro (e | user)
      · exact onlyAsks_fail _
      · exact onlyAsks_done user
  | authenticate email passwordDigest =>
    exact (onlyAsks_ask _ (reaches_of_users rfl rfl)).relabel _ _
  | setAccountType id accountType =>
    exact ((onlyAsks_ask _ ⟨fun _ => rfl, fun _ => rfl⟩).bind fun _ =>
      onlyAsks_require _ _).relabel _ _
  | getUser id =>
    exact ((onlyAsks_ask _ (reaches_of_users rfl rfl)).bind (onlyAsks_ofOption _)).relabel _ _
  | getProfile id | getDisplayName id =>
    exact (((onlyAsks_ask _ (reaches_of_users rfl rfl)).bind (onlyAsks_ofOption _)).bind fun _ =>
      onlyAsks_done _).relabel _ _
  | createRestaurant input => exact (onlyAsks_ask _ (reaches_of_records rfl rfl)).relabel _ _
  | createCoupon form =>
    refine OnlyAsks.relabel ?_ _ _
    rw [Coupons.create]
    split
    · exact onlyAsks_fail _
    · exact onlyAsks_ask _ (reaches_of_records rfl rfl)
  | softDeleteCoupon id | deleteAchievement id =>
    exact ((onlyAsks_ask _ (reaches_of_records rfl rfl)).bind fun _ =>
      onlyAsks_require _ _).relabel _ _
  | createAchievement input =>
    refine OnlyAsks.relabel ?_ _ _
    rw [Achievements.create]
    split
    · exact onlyAsks_fail _
    · exact onlyAsks_ask _ (reaches_of_records rfl rfl)
  | createCompactAchievement form =>
    refine OnlyAsks.relabel ?_ _ _
    rw [Achievements.createCompact]
    split
    · exact onlyAsks_fail _
    · rw [Achievements.create]
      split
      · exact onlyAsks_fail _
      · exact onlyAsks_ask _ (reaches_of_records rfl rfl)
  | findRestaurant | listCoupons | findBalance | listBalances | credit | debit | listAchievements
  | listProgress => exact (onlyAsks_ask _ (reaches_of_neither rfl rfl)).relabel _ _
  | getCoupon | getAchievement | findProgress =>
    exact ((onlyAsks_ask _ (reaches_of_neither rfl rfl)).bind (onlyAsks_ofOption _)).relabel _ _
  | getCouponDetails | restaurantIdOfCoupon | getReward =>
    exact (((onlyAsks_ask _ (reaches_of_neither rfl rfl)).bind (onlyAsks_ofOption _)).bind fun _ =>
      onlyAsks_done _).relabel _ _
  | listValidCoupons | listActiveAchievements | listUnstarted =>
    exact ((onlyAsks_ask _ (reaches_of_neither rfl rfl)).bind fun _ => onlyAsks_done _).relabel _ _
  | restaurantOfCoupon id =>
    refine OnlyAsks.relabel ?_ _ _
    apply (onlyAsks_ask _ (reaches_of_neither rfl rfl)).bind
    intro found
    apply (onlyAsks_ofOption _ _).bind
    rintro ⟨coupon, restaurant⟩
    exact onlyAsks_ofOption _ restaurant
  | redeem curve today userId couponId =>
    exact (onlyAsks_redeem curve today userId couponId).relabel _ _
  | advance row =>
    exact ((Achievements.onlyAsks_advance row).mono fun _ => reaches_of_onRow).relabel _ _
  | complete row =>
    exact ((Achievements.onlyAsks_complete row).mono fun _ => reaches_of_onRow).relabel _ _
  | record today userId achievementId =>
    exact ((Achievements.onlyAsks_record today userId achievementId).mono
      fun _ => reaches_of_onRow).relabel _ _

end Operation

open Memory

/-- What comes of a call that may write a record: it is refused and changes nothing, or it writes
the record that it is there for. -/
inductive Call.Writes : Call → Prop
  | refused {op : Operation} {s : Memory} {e : Refusal} : Writes ⟨op, s, .error e, s⟩
  | registers {s : Memory} {input : Registration} {user : User}
      (huser : user = input.account.withId ⟨s.nextId⟩) :
      Writes ⟨.register input, s, .ok (.user user),
        { s with created := s.created + 1, users := s.users.put user }⟩
  | retypes {s : Memory} {id : UserId} {accountType : AccountType} {user : User}
      (hfound : s.users.find? id = some user) :
      Writes ⟨.setAccountType id accountType, s, .ok .nothing,
        { s with users := s.users.put { user with accountType := accountType } }⟩
  | opens {s : Memory} {input : NewRestaurant} {restaurant : Restaurant}
      (hrestaurant : restaurant = input.withId ⟨s.nextId⟩) :
      Writes ⟨.createRestaurant input, s, .ok (.restaurant restaurant),
        { s with created := s.created + 1, restaurants := s.restaurants.put restaurant }⟩
  | issues {s : Memory} {form : CouponForm} {input : NewCoupon} {coupon : Coupon}
      (hform : form.validate = .ok input) (hcoupon : coupon = input.withId ⟨s.nextId⟩) :
      Writes ⟨.createCoupon form, s, .ok (.coupon coupon),
        { s with created := s.created + 1, coupons := s.coupons.put coupon }⟩
  | marks {s : Memory} {id : CouponId} {coupon : Coupon}
      (hfound : s.coupons.find? id = some coupon) :
      Writes ⟨.softDeleteCoupon id, s, .ok .nothing,
        { s with coupons := s.coupons.put { coupon with deleted := true } }⟩
  | offers {s : Memory} {op : Operation} {input : NewAchievement} {achievement : Achievement}
      (hop : op = .createAchievement input ∨
        ∃ form, op = .createCompactAchievement form ∧ form.expand = .ok input)
      (hinput : input.report.verdict = .ok ())
      (hachievement : achievement = input.withId ⟨s.nextId⟩) :
      Writes ⟨op, s, .ok (.achievement achievement),
        { s with created := s.created + 1, achievements := s.achievements.put achievement }⟩
  | withdraws {s : Memory} {id : AchievementId} {achievement : Achievement}
      (hfound : s.achievements.find? id = some achievement) :
      Writes ⟨.deleteAchievement id, s, .ok .nothing,
        { s with
          achievements := s.achievements.erase id,
          progress := s.progress.filter fun p => p.achievementId ≠ id }⟩

theorem Call.writes_call {op : Operation} (hop : op.revises = true) (s : Memory) :
    (op.call s).Writes := by
  cases op with
  | register input =>
    dsimp only [Operation.call, Operation.script]
    rw [Script.run_relabel, Accounts.register, Script.bind_eq, Script.run_bind, Script.run_ask]
    dsimp only [handle]
    cases (input.report (s.findUserByEmail input.email).isSome).verdict with
    | error report => exact .refused
    | ok _ =>
      dsimp only [Accounts.create, Script.run_call, handle, createUser]
      by_cases htaken : (s.users.rows.any fun u => u.email == input.account.email) = true
      · simp only [if_pos htaken]
        exact .refused
      · simp only [if_neg htaken]
        exact .registers rfl
  | setAccountType id accountType =>
    dsimp only [Operation.call, Operation.script]
    rw [Script.run_relabel, Accounts.setAccountType, Script.bind_eq, Script.run_bind,
      Script.run_ask]
    dsimp only [handle, answered, setAccountType]
    cases hfound : s.users.find? id with
    | none => exact .refused
    | some user => exact .retypes hfound
  | createRestaurant input => exact .opens rfl
  | createCoupon form =>
    dsimp only [Operation.call, Operation.script, Coupons.create]
    cases hform : form.validate with
    | error report => exact .refused
    | ok input => exact .issues hform rfl
  | softDeleteCoupon id =>
    dsimp only [Operation.call, Operation.script]
    rw [Script.run_relabel, Coupons.softDelete, Script.bind_eq, Script.run_bind, Script.run_ask]
    dsimp only [handle, answered, markDeleted]
    cases hfound : s.coupons.find? id with
    | none => exact .refused
    | some coupon => exact .marks hfound
  | createAchievement input =>
    dsimp only [Operation.call, Operation.script, Achievements.create]
    cases hinput : input.report.verdict with
    | error report => exact .refused
    | ok _ => exact .offers (Or.inl rfl) hinput rfl
  | createCompactAchievement form =>
    dsimp only [Operation.call, Operation.script, Achievements.createCompact]
    cases hform : form.expand with
    | error report => exact .refused
    | ok input =>
      dsimp only [Achievements.create]
      cases hinput : input.report.verdict with
      | error report => exact .refused
      | ok _ => exact .offers (Or.inr ⟨form, rfl, hform⟩) hinput rfl
  | deleteAchievement id =>
    dsimp only [Operation.call, Operation.script]
    rw [Script.run_relabel, Achievements.delete, Script.bind_eq, Script.run_bind, Script.run_ask]
    dsimp only [handle, answered, deleteAchievement]
    cases hfound : s.achievements.find? id with
    | none => exact .refused
    | some achievement => exact .withdraws hfound
  | _ => cases hop

end Loyalty
