import Loyalty.Proofs.Operation

/-!
# Exchanges

An exchange is a request together with its answer. `Script.Keeps asks ends past` judges a script on
every branch: each request must suit the exchanges that came before it, the latest first, and so
must the result that the branch ends in. Of the answers nothing is assumed but that a row which is
answered has the key that was asked for. So a judgement holds for every store, faulty ones included,
and whatever else touches the store in between.
-/

namespace Loyalty

abbrev Exchange := (r : Request) × Except StoreError r.Answer

structure Payment where
  userId : UserId
  achievementId : AchievementId
  reward : Reward
  deriving DecidableEq

structure Purchase where
  userId : UserId
  restaurantId : RestaurantId
  points : Amount
  deriving DecidableEq

namespace Exchange

def payment? : Exchange → Option Payment
  | ⟨.complete row reward, .ok true⟩ => some ⟨row.userId, row.achievementId, reward⟩
  | _ => none

def purchase? : Exchange → Option Purchase
  | ⟨.debit userId restaurantId points, .ok (some _)⟩ => some ⟨userId, restaurantId, points⟩
  | _ => none

def counted? : Exchange → Option (UserId × AchievementId)
  | ⟨.increment achievementId userId, .ok (some _)⟩ => some (userId, achievementId)
  | _ => none

def offered? : Exchange → Option Achievement
  | ⟨.createAchievement _, .ok achievement⟩ => some achievement
  | _ => none

def withdrawn? : Exchange → Option AchievementId
  | ⟨.deleteAchievement id, .ok true⟩ => some id
  | _ => none

/-- A row that is answered has the key that was asked for. -/
def OnKey : Exchange → Prop
  | ⟨.findCoupon id, .ok (some coupon)⟩ => coupon.id = id
  | ⟨.findAchievement id, .ok (some achievement)⟩ => achievement.id = id
  | ⟨.findProgress achievementId userId, .ok (some row)⟩ =>
    row.userId = userId ∧ row.achievementId = achievementId
  | ⟨.createProgress achievementId userId _, .ok row⟩ =>
    row.userId = userId ∧ row.achievementId = achievementId
  | ⟨.increment achievementId userId, .ok (some row)⟩ =>
    row.userId = userId ∧ row.achievementId = achievementId
  | _ => True

end Exchange

namespace Script

variable {ε δ α β : Type}

def Keeps (asks : List Exchange → Request → Prop) (ends : List Exchange → Except ε α → Prop) :
    List Exchange → Script ε α → Prop
  | past, .done a => ends past (.ok a)
  | past, .fail e => ends past (.error e)
  | past, .call r next =>
    asks past r ∧ ∀ answer, Exchange.OnKey ⟨r, answer⟩ →
      Keeps asks ends (⟨r, answer⟩ :: past) (next answer)

variable {asks : List Exchange → Request → Prop} {ends : List Exchange → Except ε α → Prop}
  {past : List Exchange}

theorem keeps_call {r : Request} {next : Except StoreError r.Answer → Script ε α} :
    Keeps asks ends past (.call r next) ↔
      asks past r ∧ ∀ answer, Exchange.OnKey ⟨r, answer⟩ →
        Keeps asks ends (⟨r, answer⟩ :: past) (next answer) := Iff.rfl

theorem Keeps.bind {ends : List Exchange → Except ε β → Prop}
    {middle : List Exchange → Except ε α → Prop} {p : Script ε α} {f : α → Script ε β}
    (h : Keeps asks middle past p)
    (hok : ∀ past a, middle past (.ok a) → Keeps asks ends past (f a))
    (herror : ∀ past e, middle past (.error e) → ends past (.error e)) :
    Keeps asks ends past (p >>= f) := by
  rw [bind_eq]
  induction p generalizing past with
  | done a => exact hok past a h
  | fail e => exact herror past e h
  | call r next ih => exact ⟨h.1, fun answer hkey => ih answer (h.2 answer hkey)⟩

theorem keeps_relabel {ends : List Exchange → Except δ β → Prop} (onError : ε → δ)
    (onValue : α → β) (p : Script ε α) :
    Keeps asks ends past (p.relabel onError onValue) ↔
      Keeps asks (fun past result => ends past (relabelResult onError onValue result)) past p := by
  induction p generalizing past with
  | done a => rfl
  | fail e => rfl
  | call r next ih => simp only [relabel, keeps_call, ih]

theorem Keeps.require {condition : Bool} {e : ε} {f : Unit → Script ε α}
    (hholds : condition = true → Keeps asks ends past (f ()))
    (hfails : condition = false → ends past (.error e)) :
    Keeps asks ends past (Script.require condition e >>= f) := by
  cases condition
  · exact hfails rfl
  · exact hholds rfl

/-- A judgement may be weakened. -/
theorem Keeps.mono {asks' : List Exchange → Request → Prop}
    {ends' : List Exchange → Except ε α → Prop} {p : Script ε α} (h : Keeps asks ends past p)
    (hasks : ∀ past r, asks past r → asks' past r)
    (hends : ∀ past result, ends past result → ends' past result) : Keeps asks' ends' past p := by
  induction p generalizing past with
  | done a => exact hends _ _ h
  | fail e => exact hends _ _ h
  | call r next ih => exact ⟨hasks _ _ h.1, fun answer hkey => ih answer (h.2 answer hkey)⟩

end Script

end Loyalty
