import Loyalty.Proofs.Likeness

/-!
# Scripts that treat identifiers alike

Calls that are alike have scripts that match: they make requests that are alike, and whatever they
are answered, as long as the answers are alike, they go on alike. Nothing is said of the requests
that give out new identifiers, and nothing of the start of a progress row.
-/

namespace Loyalty

namespace Likeness

variable (l : Likeness)

def SameRows (rows rows' : List Progress) : Prop :=
  List.Forall₂ l.SameProgress rows rows' ∧ ∀ i j, l.achievements i j →
    ((rows.any fun p => p.achievementId = i) = rows'.any fun p => p.achievementId = j)

/-- Two requests, and when answers to them are alike. -/
inductive Asks : (q r : Request) →
    (Except StoreError q.Answer → Except StoreError r.Answer → Prop) → Prop
  | findUser {i j : UserId} (h : l.users i j) :
      Asks (.findUser i) (.findUser j) (Outcomes SameKind (Option.Rel l.SameUser))
  | findUserByEmail (email : String) :
      Asks (.findUserByEmail email) (.findUserByEmail email)
        (Outcomes SameKind (Option.Rel l.SameUser))
  | findUserByCredentials (email passwordDigest : String) :
      Asks (.findUserByCredentials email passwordDigest)
        (.findUserByCredentials email passwordDigest) (Outcomes SameKind (Option.Rel l.SameUser))
  | setAccountType {i j : UserId} (h : l.users i j) (accountType : AccountType) :
      Asks (.setAccountType i accountType) (.setAccountType j accountType)
        (Outcomes SameKind (Eq : Bool → Bool → Prop))
  | findRestaurant {i j : RestaurantId} (h : l.restaurants i j) :
      Asks (.findRestaurant i) (.findRestaurant j)
        (Outcomes SameKind (Option.Rel l.SameRestaurant))
  | findCoupon {i j : CouponId} (h : l.coupons i j) :
      Asks (.findCoupon i) (.findCoupon j) (Outcomes SameKind (Option.Rel l.SameCoupon))
  | findCouponWithRestaurant {i j : CouponId} (h : l.coupons i j) :
      Asks (.findCouponWithRestaurant i) (.findCouponWithRestaurant j)
        (Outcomes SameKind (Option.Rel fun a b =>
          l.SameCoupon a.1 b.1 ∧ Option.Rel l.SameRestaurant a.2 b.2))
  | listCoupons {i j : RestaurantId} (h : l.restaurants i j) :
      Asks (.listCoupons i) (.listCoupons j) (Outcomes SameKind (List.Forall₂ l.SameCoupon))
  | markDeleted {i j : CouponId} (h : l.coupons i j) :
      Asks (.markDeleted i) (.markDeleted j) (Outcomes SameKind (Eq : Bool → Bool → Prop))
  | findBalance {u v : UserId} {i j : RestaurantId} (huser : l.users u v)
      (hrestaurant : l.restaurants i j) :
      Asks (.findBalance u i) (.findBalance v j) (Outcomes SameKind (Option.Rel l.SameBalance))
  | listBalances {u v : UserId} (h : l.users u v) :
      Asks (.listBalances u) (.listBalances v) (Outcomes SameKind (List.Forall₂ l.SameBalance))
  | credit {u v : UserId} {i j : RestaurantId} (huser : l.users u v)
      (hrestaurant : l.restaurants i j) (points experience : Amount) :
      Asks (.credit u i points experience) (.credit v j points experience)
        (Outcomes SameKind l.SameBalance)
  | debit {u v : UserId} {i j : RestaurantId} (huser : l.users u v)
      (hrestaurant : l.restaurants i j) (points : Amount) :
      Asks (.debit u i points) (.debit v j points)
        (Outcomes SameKind (Option.Rel l.SameBalance))
  | findAchievement {i j : AchievementId} (h : l.achievements i j) :
      Asks (.findAchievement i) (.findAchievement j)
        (Outcomes SameKind (Option.Rel l.SameAchievement))
  | listAchievements {i j : RestaurantId} (h : l.restaurants i j) :
      Asks (.listAchievements i) (.listAchievements j)
        (Outcomes SameKind (List.Forall₂ l.SameAchievement))
  | deleteAchievement {i j : AchievementId} (h : l.achievements i j) :
      Asks (.deleteAchievement i) (.deleteAchievement j)
        (Outcomes SameKind (Eq : Bool → Bool → Prop))
  | listProgress {u v : UserId} (h : l.users u v) :
      Asks (.listProgress u) (.listProgress v) (Outcomes SameKind l.SameRows)
  | findProgress {i j : AchievementId} {u v : UserId} (hachievement : l.achievements i j)
      (huser : l.users u v) :
      Asks (.findProgress i u) (.findProgress j v)
        (Outcomes SameKind (Option.Rel l.SameProgress))
  | increment {i j : AchievementId} {u v : UserId} (hachievement : l.achievements i j)
      (huser : l.users u v) :
      Asks (.increment i u) (.increment j v) (Outcomes SameKind (Option.Rel l.SameProgress))
  | complete {row row' : Progress} {a b : Reward} (hrow : l.SameProgress row row')
      (hreward : l.SameReward a b) :
      Asks (.complete row a) (.complete row' b) (Outcomes SameKind (Eq : Bool → Bool → Prop))

end Likeness

namespace Script

variable {ε δ ε' δ' α β α' β' : Type}

inductive Matches (l : Likeness) (onError : ε → δ → Prop) (onValue : α → β → Prop) :
    Script ε α → Script δ β → Prop
  | done {a : α} {b : β} (h : onValue a b) : Matches l onError onValue (.done a) (.done b)
  | fail {e : ε} {d : δ} (h : onError e d) : Matches l onError onValue (.fail e) (.fail d)
  | call {q r : Request} {alike : Except StoreError q.Answer → Except StoreError r.Answer → Prop}
      {next : Except StoreError q.Answer → Script ε α}
      {other : Except StoreError r.Answer → Script δ β} (h : l.Asks q r alike)
      (hnext : ∀ a b, alike a b → Matches l onError onValue (next a) (other b)) :
      Matches l onError onValue (.call q next) (.call r other)

namespace Matches

variable {l : Likeness} {onError : ε → δ → Prop} {onValue : α → β → Prop}

theorem bind {onResult : α' → β' → Prop} {p : Script ε α} {q : Script δ β}
    {f : α → Script ε α'} {g : β → Script δ β'} (h : Matches l onError onValue p q)
    (hnext : ∀ a b, onValue a b → Matches l onError onResult (f a) (g b)) :
    Matches l onError onResult (p >>= f) (q >>= g) := by
  rw [bind_eq, bind_eq]
  induction h with
  | done h => exact hnext _ _ h
  | fail h => exact .fail h
  | call h _ ih => exact .call h ih

theorem relabel {onError' : ε' → δ' → Prop} {onValue' : α' → β' → Prop} {p : Script ε α}
    {q : Script δ β} {f : ε → ε'} {f' : δ → δ'} {g : α → α'} {g' : β → β'}
    (h : Matches l onError onValue p q) (herror : ∀ e d, onError e d → onError' (f e) (f' d))
    (hvalue : ∀ a b, onValue a b → onValue' (g a) (g' b)) :
    Matches l onError' onValue' (p.relabel f g) (q.relabel f' g') := by
  induction h with
  | done h => exact .done (hvalue _ _ h)
  | fail h => exact .fail (herror _ _ h)
  | call h _ ih => exact .call h ih

theorem ask {q r : Request} {same : q.Answer → r.Answer → Prop} {report : StoreError → ε}
    {report' : StoreError → δ} (h : l.Asks q r (Outcomes SameKind same))
    (hreport : ∀ e d, SameKind e d → onError (report e) (report' d)) :
    Matches l onError same (ask report q) (ask report' r) := by
  refine .call h ?_
  intro a b hab
  cases hab with
  | ok h => exact .done h
  | error h => exact .fail (hreport _ _ h)

theorem require {condition condition' : Bool} {e : ε} {d : δ} (h : condition = condition')
    (herror : onError e d) :
    Matches l onError (fun _ _ => True) (require condition e) (require condition' d) := by
  subst h
  cases condition
  · exact .fail herror
  · exact .done trivial

theorem ofOption {a : Option α} {b : Option β} {e : ε} {d : δ} (h : Option.Rel onValue a b)
    (herror : onError e d) : Matches l onError onValue (ofOption e a) (ofOption d b) := by
  cases h with
  | none => exact .fail herror
  | some h => exact .done h

end Matches

end Script

end Loyalty
