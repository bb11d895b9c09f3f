import Loyalty.Json.Identifiers
import Loyalty.User

/-!
# Users in JSON

A user is written without the digest of the password, but cannot be read without it.
-/

namespace Loyalty

namespace AccountType

def toJson (t : AccountType) : Json := .string t.name

def ofJson : Json.Reader AccountType := fun j => do
  let name ← Json.readName j
  Json.present (ofName? name)

end AccountType

namespace Profile

def toJson (p : Profile) : Json :=
  .object [("id", p.id.toJson), ("name", .string p.name), ("email", .string p.email)]

def ofMembers (members : List (String × Json)) : Except Unreadable Profile := do
  let email ← Json.member? members "email" Json.readString
  let id ← Json.member? members "id" UserId.ofJson
  let name ← Json.member? members "name" Json.readString
  .ok ⟨← Json.present id, ← Json.present name, ← Json.present email⟩

def ofItems (items : List Json) : Except Unreadable Profile := do
  let (id, items) ← Json.item UserId.ofJson items
  let (name, items) ← Json.item Json.readString items
  let (email, items) ← Json.item Json.readString items
  Json.noMore items
  .ok ⟨id, name, email⟩

def ofJson : Json.Reader Profile := Json.readRecord ofMembers ofItems

end Profile

namespace User

def members (u : User) : List (String × Json) :=
  [("id", u.id.toJson), ("name", .string u.name), ("email", .string u.email),
    ("account_type", u.accountType.toJson)]

def toJson (u : User) : Json := .object u.members

def ofMembers (members : List (String × Json)) : Except Unreadable User := do
  let accountType ← Json.member? members "account_type" AccountType.ofJson
  let email ← Json.member? members "email" Json.readString
  let id ← Json.member? members "id" UserId.ofJson
  let name ← Json.member? members "name" Json.readString
  let digest ← Json.member? members "password_digest" Json.readString
  .ok ⟨← Json.present id, ← Json.present name, ← Json.present email, ← Json.present digest,
    ← Json.present accountType⟩

def ofItems (items : List Json) : Except Unreadable User := do
  let (id, items) ← Json.item UserId.ofJson items
  let (name, items) ← Json.item Json.readString items
  let (email, items) ← Json.item Json.readString items
  let (digest, items) ← Json.item Json.readString items
  let (accountType, items) ← Json.item AccountType.ofJson items
  Json.noMore items
  .ok ⟨id, name, email, digest, accountType⟩

def ofJson : Json.Reader User := Json.readRecord ofMembers ofItems

end User

end Loyalty
