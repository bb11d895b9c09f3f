import Loyalty.Store.Script

/-!
# Accounts

Registration and the look-up of accounts, as scripts over a store. A registration is checked as a
whole. An email that is taken between the check and the creation is reported like one that was
taken before.
-/

namespace Loyalty

/-- What a person registers with; the digest of the password is given twice. -/
structure Registration where
  name : String
  email : String
  digest : String
  repeatedDigest : String
  accountType : AccountType
  deriving DecidableEq, Repr

inductive RegistrationComplaint where
  | emailTaken
  | passwordMismatch
  | emailMissing
  | passwordMissing
  deriving DecidableEq, Repr

namespace RegistrationComplaint

def message : RegistrationComplaint → String
  | .emailTaken => "Email has already been used."
  | .passwordMismatch => "Passwords do not match."
  | .emailMissing => "An email is required."
  | .passwordMissing => "A password is required."

end RegistrationComplaint

namespace Registration

/-- The checks of a registration; whether the email is taken is known to the store. -/
def report (input : Registration) (taken : Bool) : Report RegistrationComplaint :=
  Report.empty
    |>.check taken .emailTaken
    |>.check (input.digest != input.repeatedDigest) .passwordMismatch
    |>.check (input.email == "") .emailMissing
    |>.check (input.digest == "") .passwordMissing

def account (input : Registration) : NewUser :=
  ⟨input.name, input.email, input.digest, input.accountType⟩

end Registration

inductive AccountError where
  | invalid (report : Report RegistrationComplaint)
  | notFound (id : UserId)
  | store (e : StoreError)
  deriving DecidableEq, Repr

namespace AccountError

def message : AccountError → String
  | .invalid report => "invalid registration: " ++ (report.map RegistrationComplaint.message).text
  | .notFound id => "user not found: " ++ toString id
  | .store e => e.message

def failure : AccountError → Failure
  | .invalid report => .validation (report.map RegistrationComplaint.message)
  | .notFound id => .notFound ("user " ++ toString id)
  | .store e => e.failure

end AccountError

namespace Accounts

def create (input : Registration) : Script AccountError User :=
  .call (.createUser input.account) fun
    | .ok user => .done user
    | .error e =>
      .fail (if e.kind = .conflict then .invalid (Report.empty.push .emailTaken) else .store e)

def register (input : Registration) : Script AccountError User := do
  let holder ← Script.ask .store (.findUserByEmail input.email)
  match (input.report (Option.isSome holder)).verdict with
  | .error report => .fail (.invalid report)
  | .ok () => create input

def authenticate (email passwordDigest : String) : Script AccountError (Option User) :=
  Script.ask .store (.findUserByCredentials email passwordDigest)

def setAccountType (id : UserId) (accountType : AccountType) : Script AccountError Unit := do
  let found ← Script.ask .store (.setAccountType id accountType)
  Script.require found (.notFound id)

def get (id : UserId) : Script AccountError User := do
  let user ← Script.ask .store (.findUser id)
  Script.ofOption (.notFound id) user

def profile (id : UserId) : Script AccountError Profile := do
  let user ← get id
  pure user.profile

def displayName (id : UserId) : Script AccountError String := do
  let user ← get id
  pure user.name

end Accounts

end Loyalty
