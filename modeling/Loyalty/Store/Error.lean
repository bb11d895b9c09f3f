import Loyalty.Failure
import Loyalty.Identifiers

/-!
# Store errors

Why a store cannot answer a request. Every cause is of one of three kinds: a write that would
break uniqueness, a stored row that means nothing, or a fault of the store itself.
-/

namespace Loyalty

inductive StoreErrorKind where
  | conflict
  | corrupt
  | backend
  deriving DecidableEq, Repr

/-- A column that holds numbers wider than an amount. -/
inductive BalanceColumn where
  | points
  | experience
  deriving DecidableEq, Repr

namespace BalanceColumn

def name : BalanceColumn → String
  | .points => "points"
  | .experience => "experience"

end BalanceColumn

inductive StoreError where
  | emailTaken (email : String)
  | progressExists (userId : UserId) (achievementId : AchievementId)
  | duplicateEmail
  | duplicateProgress
  | unknownAccountType (id : UserId) (code : Amount)
  | invalidWindow (id : CouponId)
  | unreadableRequirement (id : AchievementId)
  | balanceOutOfRange
  | missingReference
  | unreadableBalance (column : BalanceColumn) (fault : Text.NumberFault)
  | reported (kind : StoreErrorKind) (detail : String)
  deriving DecidableEq, Repr

namespace StoreError

def kind : StoreError → StoreErrorKind
  | .emailTaken _ => .conflict
  | .progressExists .. => .conflict
  | .duplicateEmail => .conflict
  | .duplicateProgress => .conflict
  | .unknownAccountType .. => .corrupt
  | .invalidWindow _ => .corrupt
  | .unreadableRequirement _ => .corrupt
  | .balanceOutOfRange => .backend
  | .missingReference => .backend
  | .unreadableBalance .. => .backend
  | .reported kind _ => kind

def detail : StoreError → String
  | .emailTaken email => "email " ++ email ++ " already registered"
  | .progressExists userId achievementId =>
    "progress for user " ++ toString userId ++ " on achievement " ++ toString achievementId ++
      " exists"
  | .duplicateEmail => "UNIQUE constraint failed: users.email"
  | .duplicateProgress =>
    "UNIQUE constraint failed: customer_achievement_progress.achievement_id, " ++
      "customer_achievement_progress.user_id"
  | .unknownAccountType id code =>
    "user " ++ toString id ++ " has unknown account type " ++ Text.ofAmount code
  | .invalidWindow id => "coupon " ++ toString id ++ " has an invalid date window"
  | .unreadableRequirement id =>
    "achievement " ++ toString id ++ " has an unreadable requirement"
  | .balanceOutOfRange => "points balance out of range"
  | .missingReference =>
    "Execution Error: error returned from database: (code: 787) FOREIGN KEY constraint failed"
  | .unreadableBalance column fault =>
    "Query Error: error occurred while decoding column \"" ++ column.name ++ "\": " ++
      fault.message
  | .reported _ detail => detail

def message (e : StoreError) : String :=
  match e.kind with
  | .conflict => "conflict: " ++ e.detail
  | .corrupt => "corrupt row: " ++ e.detail
  | .backend => "store failure: " ++ e.detail

/-- Callers learn of a conflict, of an internal error where a row is corrupt, and else of an error
of the database. -/
def failure (e : StoreError) : Failure :=
  match e.kind with
  | .conflict => .conflict e.detail
  | .corrupt => .internal e.detail
  | .backend => .database e.detail

end StoreError

end Loyalty
