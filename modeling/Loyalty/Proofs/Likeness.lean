import Loyalty.Proofs.Operation
import Mathlib.Data.List.Forall2

/-!
# Likeness

Two stores may give different identifiers to what was entered in both. A likeness tells which
identifiers stand for each other. Values, replies and calls are alike when they differ in nothing
but identifiers, and those are alike; errors of a store are alike when they are of one kind.
-/

namespace Loyalty

structure Likeness where
  users : UserId → UserId → Prop
  restaurants : RestaurantId → RestaurantId → Prop
  coupons : CouponId → CouponId → Prop
  achievements : AchievementId → AchievementId → Prop

/-- Both results are alike: the errors by one relation, the values by another. -/
inductive Outcomes {ε δ α β : Type} (onError : ε → δ → Prop) (onValue : α → β → Prop) :
    Except ε α → Except δ β → Prop
  | ok {a : α} {b : β} (h : onValue a b) : Outcomes onError onValue (.ok a) (.ok b)
  | error {e : ε} {d : δ} (h : onError e d) : Outcomes onError onValue (.error e) (.error d)

def SameKind (e d : StoreError) : Prop := e.kind = d.kind

namespace Likeness

structure Le (l m : Likeness) : Prop where
  users : ∀ {a b : UserId}, l.users a b → m.users a b
  restaurants : ∀ {a b : RestaurantId}, l.restaurants a b → m.restaurants a b
  coupons : ∀ {a b : CouponId}, l.coupons a b → m.coupons a b
  achievements : ∀ {a b : AchievementId}, l.achievements a b → m.achievements a b

section Values

variable (l : Likeness)

def SameUser (a b : User) : Prop := l.users a.id b.id ∧ b = { a with id := b.id }

def SameProfile (a b : Profile) : Prop := l.users a.id b.id ∧ b = { a with id := b.id }

def SameRestaurant (a b : Restaurant) : Prop := l.restaurants a.id b.id ∧ b = { a with id := b.id }

def SameCoupon (a b : Coupon) : Prop :=
  l.coupons a.id b.id ∧ l.restaurants a.restaurantId b.restaurantId ∧
    b = { a with id := b.id, restaurantId := b.restaurantId }

def SameDetails (a b : CouponDetails) : Prop := l.SameCoupon a.coupon b.coupon ∧ b.status = a.status

def SameBalance (a b : Balance) : Prop :=
  l.users a.userId b.userId ∧ l.restaurants a.restaurantId b.restaurantId ∧
    b = { a with userId := b.userId, restaurantId := b.restaurantId }

def SameReward (a b : Reward) : Prop :=
  l.restaurants a.restaurantId b.restaurantId ∧ b = { a with restaurantId := b.restaurantId }

def SameAchievement (a b : Achievement) : Prop :=
  l.achievements a.id b.id ∧ l.restaurants a.restaurantId b.restaurantId ∧
    b = { a with id := b.id, restaurantId := b.restaurantId }

def SameShown (a b : AchievementProgress) : Prop :=
  l.SameAchievement a.achievement b.achievement ∧ b.progress = a.progress ∧ b.total = a.total

def SameProgress (a b : Progress) : Prop :=
  l.users a.userId b.userId ∧ l.achievements a.achievementId b.achievementId ∧
    b = { a with userId := b.userId, achievementId := b.achievementId }

inductive SameOutcome : Outcome → Outcome → Prop
  | advanced {a b : Progress} (h : l.SameProgress a b) : SameOutcome (.advanced a) (.advanced b)
  | completed {u v : UserId} {i j : AchievementId} {a b : Reward} (huser : l.users u v)
      (hachievement : l.achievements i j) (hreward : l.SameReward a b) :
      SameOutcome (.completed u i a) (.completed v j b)

def SameCouponForm (a b : CouponForm) : Prop :=
  l.restaurants a.restaurantId b.restaurantId ∧ b = { a with restaurantId := b.restaurantId }

def SameNewAchievement (a b : NewAchievement) : Prop :=
  l.restaurants a.restaurantId b.restaurantId ∧ b = { a with restaurantId := b.restaurantId }

def SameCompactAchievement (a b : CompactAchievement) : Prop :=
  l.restaurants a.restaurantId b.restaurantId ∧ b = { a with restaurantId := b.restaurantId }

inductive SameAccountError : AccountError → AccountError → Prop
  | invalid (report : Report RegistrationComplaint) :
      SameAccountError (.invalid report) (.invalid report)
  | notFound {i j : UserId} (h : l.users i j) : SameAccountError (.notFound i) (.notFound j)
  | store {e d : StoreError} (h : SameKind e d) : SameAccountError (.store e) (.store d)

inductive SameCouponError : CouponError → CouponError → Prop
  | invalid (report : Report CouponComplaint) : SameCouponError (.invalid report) (.invalid report)
  | notFound {i j : CouponId} (h : l.coupons i j) : SameCouponError (.notFound i) (.notFound j)
  | restaurantNotFound {i j : RestaurantId} (h : l.restaurants i j) :
      SameCouponError (.restaurantNotFound i) (.restaurantNotFound j)
  | unavailable {i j : CouponId} (h : l.coupons i j) :
      SameCouponError (.unavailable i) (.unavailable j)
  | levelTooLow (required : Amount) (actual : Nat) :
      SameCouponError (.levelTooLow required actual) (.levelTooLow required actual)
  | insufficientPoints (required available : Amount) :
      SameCouponError (.insufficientPoints required available)
        (.insufficientPoints required available)
  | store {e d : StoreError} (h : SameKind e d) : SameCouponError (.store e) (.store d)

inductive SameAchievementError : AchievementError → AchievementError → Prop
  | invalid (report : Report AchievementComplaint) :
      SameAchievementError (.invalid report) (.invalid report)
  | notFound {i j : AchievementId} (h : l.achievements i j) :
      SameAchievementError (.notFound i) (.notFound j)
  | progressNotFound {i j : AchievementId} {u v : UserId} (hachievement : l.achievements i j)
      (huser : l.users u v) : SameAchievementError (.progressNotFound i u) (.progressNotFound j v)
  | alreadyCompleted {i j : AchievementId} {u v : UserId} (hachievement : l.achievements i j)
      (huser : l.users u v) : SameAchievementError (.alreadyCompleted i u) (.alreadyCompleted j v)
  | unfinished {i j : AchievementId} {u v : UserId} (hachievement : l.achievements i j)
      (huser : l.users u v) : SameAchievementError (.unfinished i u) (.unfinished j v)
  | inactive {i j : AchievementId} (h : l.achievements i j) :
      SameAchievementError (.inactive i) (.inactive j)
  | store {e d : StoreError} (h : SameKind e d) : SameAchievementError (.store e) (.store d)

inductive SameRefusal : Refusal → Refusal → Prop
  | account {e d : AccountError} (h : l.SameAccountError e d) :
      SameRefusal (.account e) (.account d)
  | coupon {e d : CouponError} (h : l.SameCouponError e d) : SameRefusal (.coupon e) (.coupon d)
  | achievement {e d : AchievementError} (h : l.SameAchievementError e d) :
      SameRefusal (.achievement e) (.achievement d)
  | store {e d : StoreError} (h : SameKind e d) : SameRefusal (.store e) (.store d)

inductive SameReply : Reply → Reply → Prop
  | nothing : SameReply .nothing .nothing
  | user {a b : User} (h : l.SameUser a b) : SameReply (.user a) (.user b)
  | userIfAny {a b : Option User} (h : Option.Rel l.SameUser a b) :
      SameReply (.userIfAny a) (.userIfAny b)
  | profile {a b : Profile} (h : l.SameProfile a b) : SameReply (.profile a) (.profile b)
  | name (name : String) : SameReply (.name name) (.name name)
  | restaurant {a b : Restaurant} (h : l.SameRestaurant a b) :
      SameReply (.restaurant a) (.restaurant b)
  | restaurantIfAny {a b : Option Restaurant} (h : Option.Rel l.SameRestaurant a b) :
      SameReply (.restaurantIfAny a) (.restaurantIfAny b)
  | restaurantId {i j : RestaurantId} (h : l.restaurants i j) :
      SameReply (.restaurantId i) (.restaurantId j)
  | coupon {a b : Coupon} (h : l.SameCoupon a b) : SameReply (.coupon a) (.coupon b)
  | couponDetails {a b : CouponDetails} (h : l.SameDetails a b) :
      SameReply (.couponDetails a) (.couponDetails b)
  | coupons {as bs : List Coupon} (h : List.Forall₂ l.SameCoupon as bs) :
      SameReply (.coupons as) (.coupons bs)
  | balance {a b : Balance} (h : l.SameBalance a b) : SameReply (.balance a) (.balance b)
  | balanceIfAny {a b : Option Balance} (h : Option.Rel l.SameBalance a b) :
      SameReply (.balanceIfAny a) (.balanceIfAny b)
  | balances {as bs : List Balance} (h : List.Forall₂ l.SameBalance as bs) :
      SameReply (.balances as) (.balances bs)
  | achievement {a b : Achievement} (h : l.SameAchievement a b) :
      SameReply (.achievement a) (.achievement b)
  | achievements {as bs : List Achievement} (h : List.Forall₂ l.SameAchievement as bs) :
      SameReply (.achievements as) (.achievements bs)
  | shown {as bs : List AchievementProgress} (h : List.Forall₂ l.SameShown as bs) :
      SameReply (.shown as) (.shown bs)
  | row {a b : Progress} (h : l.SameProgress a b) : SameReply (.row a) (.row b)
  | rows {as bs : List Progress} (h : List.Forall₂ l.SameProgress as bs) :
      SameReply (.rows as) (.rows bs)
  | reward {a b : Reward} (h : l.SameReward a b) : SameReply (.reward a) (.reward b)
  | outcome {a b : Outcome} (h : l.SameOutcome a b) : SameReply (.outcome a) (.outcome b)

/-- The same call, on what is alike and on the same day. -/
inductive SameCall : Operation → Operation → Prop
  | register (input : Registration) : SameCall (.register input) (.register input)
  | authenticate (email passwordDigest : String) :
      SameCall (.authenticate email passwordDigest) (.authenticate email passwordDigest)
  | setAccountType {i j : UserId} (h : l.users i j) (accountType : AccountType) :
      SameCall (.setAccountType i accountType) (.setAccountType j accountType)
  | getUser {i j : UserId} (h : l.users i j) : SameCall (.getUser i) (.getUser j)
  | getProfile {i j : UserId} (h : l.users i j) : SameCall (.getProfile i) (.getProfile j)
  | getDisplayName {i j : UserId} (h : l.users i j) :
      SameCall (.getDisplayName i) (.getDisplayName j)
  | createRestaurant (input : NewRestaurant) :
      SameCall (.createRestaurant input) (.createRestaurant input)
  | findRestaurant {i j : RestaurantId} (h : l.restaurants i j) :
      SameCall (.findRestaurant i) (.findRestaurant j)
  | createCoupon {a b : CouponForm} (h : l.SameCouponForm a b) :
      SameCall (.createCoupon a) (.createCoupon b)
  | getCoupon {i j : CouponId} (h : l.coupons i j) : SameCall (.getCoupon i) (.getCoupon j)
  | getCouponDetails (today : Date) {i j : CouponId} (h : l.coupons i j) :
      SameCall (.getCouponDetails today i) (.getCouponDetails today j)
  | softDeleteCoupon {i j : CouponId} (h : l.coupons i j) :
      SameCall (.softDeleteCoupon i) (.softDeleteCoupon j)
  | listCoupons {i j : RestaurantId} (h : l.restaurants i j) :
      SameCall (.listCoupons i) (.listCoupons j)
  | listValidCoupons (today : Date) {i j : RestaurantId} (h : l.restaurants i j) :
      SameCall (.listValidCoupons today i) (.listValidCoupons today j)
  | restaurantOfCoupon {i j : CouponId} (h : l.coupons i j) :
      SameCall (.restaurantOfCoupon i) (.restaurantOfCoupon j)
  | restaurantIdOfCoupon {i j : CouponId} (h : l.coupons i j) :
      SameCall (.restaurantIdOfCoupon i) (.restaurantIdOfCoupon j)
  | redeem (curve : LevelCurve) (today : Date) {u v : UserId} {i j : CouponId}
      (huser : l.users u v) (hcoupon : l.coupons i j) :
      SameCall (.redeem curve today u i) (.redeem curve today v j)
  | findBalance {u v : UserId} {i j : RestaurantId} (huser : l.users u v)
      (hrestaurant : l.restaurants i j) : SameCall (.findBalance u i) (.findBalance v j)
  | listBalances {u v : UserId} (h : l.users u v) : SameCall (.listBalances u) (.listBalances v)
  | credit {u v : UserId} {i j : RestaurantId} (huser : l.users u v)
      (hrestaurant : l.restaurants i j) (points experience : Amount) :
      SameCall (.credit u i points experience) (.credit v j points experience)
  | debit {u v : UserId} {i j : RestaurantId} (huser : l.users u v)
      (hrestaurant : l.restaurants i j) (points : Amount) :
      SameCall (.debit u i points) (.debit v j points)
  | createAchievement {a b : NewAchievement} (h : l.SameNewAchievement a b) :
      SameCall (.createAchievement a) (.createAchievement b)
  | createCompactAchievement {a b : CompactAchievement} (h : l.SameCompactAchievement a b) :
      SameCall (.createCompactAchievement a) (.createCompactAchievement b)
  | deleteAchievement {i j : AchievementId} (h : l.achievements i j) :
      SameCall (.deleteAchievement i) (.deleteAchievement j)
  | getAchievement {i j : AchievementId} (h : l.achievements i j) :
      SameCall (.getAchievement i) (.getAchievement j)
  | getReward {i j : AchievementId} (h : l.achievements i j) :
      SameCall (.getReward i) (.getReward j)
  | listAchievements {i j : RestaurantId} (h : l.restaurants i j) :
      SameCall (.listAchievements i) (.listAchievements j)
  | listActiveAchievements (today : Date) {i j : RestaurantId} (h : l.restaurants i j) :
      SameCall (.listActiveAchievements today i) (.listActiveAchievements today j)
  | listUnstarted {as bs : List Achievement} {u v : UserId}
      (hachievements : List.Forall₂ l.SameAchievement as bs) (huser : l.users u v) :
      SameCall (.listUnstarted as u) (.listUnstarted bs v)
  | listProgress {u v : UserId} (h : l.users u v) : SameCall (.listProgress u) (.listProgress v)
  | findProgress {i j : AchievementId} {u v : UserId} (hachievement : l.achievements i j)
      (huser : l.users u v) : SameCall (.findProgress i u) (.findProgress j v)
  | advance {a b : Progress} (h : l.SameProgress a b) : SameCall (.advance a) (.advance b)
  | complete {a b : Progress} (h : l.SameProgress a b) : SameCall (.complete a) (.complete b)
  | record (today : Date) {u v : UserId} {i j : AchievementId} (huser : l.users u v)
      (hachievement : l.achievements i j) :
      SameCall (.record today u i) (.record today v j)

end Values

section Mono

variable {l m : Likeness}

theorem Le.trans {n : Likeness} (h : l.Le m) (h' : m.Le n) : l.Le n :=
  ⟨fun hij => h'.users (h.users hij), fun hij => h'.restaurants (h.restaurants hij),
    fun hij => h'.coupons (h.coupons hij), fun hij => h'.achievements (h.achievements hij)⟩

theorem sameRestaurant_mono (h : l.Le m) {a b : Restaurant} (hab : l.SameRestaurant a b) :
    m.SameRestaurant a b := ⟨h.restaurants hab.1, hab.2⟩

theorem sameAchievement_mono (h : l.Le m) {a b : Achievement} (hab : l.SameAchievement a b) :
    m.SameAchievement a b := ⟨h.achievements hab.1, h.restaurants hab.2.1, hab.2.2⟩

theorem sameProgress_mono (h : l.Le m) {a b : Progress} (hab : l.SameProgress a b) :
    m.SameProgress a b :=
  ⟨h.users hab.1, h.achievements hab.2.1, hab.2.2⟩

theorem sameCall_mono (h : l.Le m) {a b : Operation} (hab : l.SameCall a b) :
    m.SameCall a b := by
  cases hab with
  | createCoupon hform => exact .createCoupon ⟨h.restaurants hform.1, hform.2⟩
  | createAchievement hinput => exact .createAchievement ⟨h.restaurants hinput.1, hinput.2⟩
  | createCompactAchievement hform =>
    exact .createCompactAchievement ⟨h.restaurants hform.1, hform.2⟩
  | listUnstarted hachievements huser =>
    exact .listUnstarted (hachievements.imp fun _ _ => sameAchievement_mono h) (h.users huser)
  | advance hrow => exact .advance (sameProgress_mono h hrow)
  | complete hrow => exact .complete (sameProgress_mono h hrow)
  | _ =>
    constructor <;>
      first
      | exact h.users (by assumption)
      | exact h.restaurants (by assumption)
      | exact h.coupons (by assumption)
      | exact h.achievements (by assumption)

end Mono

end Likeness

end Loyalty
