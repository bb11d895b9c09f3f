import Loyalty.Identifiers

/-!
# Users

People with an account: customers, and the staff and owners of restaurants. Passwords are known
only by their digests.
-/

namespace Loyalty

inductive AccountType where
  | customer
  | employee
  | owner
  | adminEmployee
  deriving DecidableEq, Repr

namespace AccountType

def code : AccountType → Amount
  | .customer => -1
  | .employee => 0
  | .owner => 1
  | .adminEmployee => 2

def ofCode? (code : Amount) : Option AccountType :=
  if code = -1 then some .customer
  else if code = 0 then some .employee
  else if code = 1 then some .owner
  else if code = 2 then some .adminEmployee
  else none

def name : AccountType → String
  | .customer => "customer"
  | .employee => "employee"
  | .owner => "owner"
  | .adminEmployee => "admin_employee"

def ofName? (name : String) : Option AccountType :=
  if name = "customer" then some .customer
  else if name = "employee" then some .employee
  else if name = "owner" then some .owner
  else if name = "admin_employee" then some .adminEmployee
  else none

def isStaff : AccountType → Bool
  | .customer => false
  | _ => true

def canManageProgram : AccountType → Bool
  | .owner => true
  | _ => false

def canScan (t : AccountType) : Bool := t.isStaff

@[simp] theorem ofCode?_code (t : AccountType) : ofCode? t.code = some t := by cases t <;> decide

end AccountType

structure Profile where
  id : UserId
  name : String
  email : String
  deriving DecidableEq, Repr

structure User where
  id : UserId
  name : String
  email : String
  passwordDigest : String
  accountType : AccountType
  deriving DecidableEq, Repr

def User.profile (u : User) : Profile := ⟨u.id, u.name, u.email⟩

structure NewUser where
  name : String
  email : String
  passwordDigest : String
  accountType : AccountType
  deriving DecidableEq, Repr

end Loyalty
