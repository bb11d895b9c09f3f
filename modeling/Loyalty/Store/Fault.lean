import Loyalty.Store.Script

/-!
# Faulty stores

A store may be made to fail. Faults are queued for a kind of request; the next request of that kind
uses up the first of them and does not reach the store. A fault is an error, or the answer that
there is nothing.
-/

namespace Loyalty

inductive RequestKind where
  | createUser
  | findUser
  | findUserByEmail
  | findUserByCredentials
  | setAccountType
  | createCoupon
  | findCoupon
  | findCouponWithRestaurant
  | listCoupons
  | markDeleted
  | findBalance
  | listBalances
  | credit
  | debit
  | createAchievement
  | findAchievement
  | listAchievements
  | deleteAchievement
  | listProgress
  | findProgress
  | createProgress
  | increment
  | complete
  deriving DecidableEq, Repr

namespace Request

def kind? : Request → Option RequestKind
  | .createUser _ => some .createUser
  | .findUser _ => some .findUser
  | .findUserByEmail _ => some .findUserByEmail
  | .findUserByCredentials .. => some .findUserByCredentials
  | .setAccountType .. => some .setAccountType
  | .createRestaurant _ => none
  | .findRestaurant _ => none
  | .createCoupon _ => some .createCoupon
  | .findCoupon _ => some .findCoupon
  | .findCouponWithRestaurant _ => some .findCouponWithRestaurant
  | .listCoupons _ => some .listCoupons
  | .markDeleted _ => some .markDeleted
  | .findBalance .. => some .findBalance
  | .listBalances _ => some .listBalances
  | .credit .. => some .credit
  | .debit .. => some .debit
  | .createAchievement _ => some .createAchievement
  | .findAchievement _ => some .findAchievement
  | .listAchievements _ => some .listAchievements
  | .deleteAchievement _ => some .deleteAchievement
  | .listProgress _ => some .listProgress
  | .findProgress .. => some .findProgress
  | .createProgress .. => some .createProgress
  | .increment .. => some .increment
  | .complete .. => some .complete

/-- The answer that there is nothing; creations and credits have none. -/
def absence? : (r : Request) → Option r.Answer
  | .createUser _ => none
  | .findUser _ => some (none : Option User)
  | .findUserByEmail _ => some (none : Option User)
  | .findUserByCredentials .. => some (none : Option User)
  | .setAccountType .. => some false
  | .createRestaurant _ => none
  | .findRestaurant _ => some (none : Option Restaurant)
  | .createCoupon _ => none
  | .findCoupon _ => some (none : Option Coupon)
  | .findCouponWithRestaurant _ => some (none : Option (Coupon × Option Restaurant))
  | .listCoupons _ => some ([] : List Coupon)
  | .markDeleted _ => some false
  | .findBalance .. => some (none : Option Balance)
  | .listBalances _ => some ([] : List Balance)
  | .credit .. => none
  | .debit .. => some (none : Option Balance)
  | .createAchievement _ => none
  | .findAchievement _ => some (none : Option Achievement)
  | .listAchievements _ => some ([] : List Achievement)
  | .deleteAchievement _ => some false
  | .listProgress _ => some ([] : List Progress)
  | .findProgress .. => some (none : Option Progress)
  | .createProgress .. => none
  | .increment .. => some (none : Option Progress)
  | .complete .. => some false

end Request

inductive Fault where
  | failure (e : StoreError)
  | absent
  deriving DecidableEq, Repr

def Fault.answer? (fault : Fault) (r : Request) : Option (Except StoreError r.Answer) :=
  match fault with
  | .failure e => some (.error e)
  | .absent => r.absence?.map .ok

abbrev FaultQueue := List (RequestKind × Fault)

namespace FaultQueue

def take? (kind : RequestKind) : FaultQueue → Option (Fault × FaultQueue)
  | [] => none
  | (k, fault) :: queue =>
    if k = kind then some (fault, queue)
    else (take? kind queue).map fun (found, queue) => (found, (k, fault) :: queue)

def meet? (queue : FaultQueue) (r : Request) : Option (Fault × FaultQueue) :=
  r.kind?.bind fun kind => queue.take? kind

end FaultQueue

/-- A store behind a queue of faults. A fault that has no answer is used up all the same. -/
def Handler.withFaults {σ : Type} (handle : Handler σ) : Handler (FaultQueue × σ) :=
  fun r (queue, s) =>
    match queue.meet? r with
    | none => ((handle r s).1, queue, (handle r s).2)
    | some (fault, queue) =>
      match fault.answer? r with
      | some answer => (answer, queue, s)
      | none => ((handle r s).1, queue, (handle r s).2)

end Loyalty
