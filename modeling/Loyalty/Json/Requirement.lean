import Loyalty.Json.Validity
import Loyalty.Requirement

/-!
# Requirements in JSON

A goal carries the tag `kind`; a requirement is a record of a goal and a validity.
-/

namespace Loyalty

namespace Goal

def toJson : Goal → Json
  | .purchase item quantity => .object
      [("kind", .string "purchase_item"), ("item", .string item),
        ("quantity", Json.ofAmount quantity)]
  | .visit times => .object [("kind", .string "visit"), ("times", Json.ofAmount times)]

def purchaseOfMembers (members : List (String × Json)) : Except Unreadable Goal := do
  let item ← Json.member? members "item" Json.readString
  let quantity ← Json.member? members "quantity" Json.readAmount
  .ok (.purchase (← Json.present item) (← Json.present quantity))

def purchaseOfItems (items : List Json) : Except Unreadable Goal := do
  let (item, items) ← Json.item Json.readString items
  let (quantity, items) ← Json.item Json.readAmount items
  Json.noMore items
  .ok (.purchase item quantity)

def visitOfMembers (members : List (String × Json)) : Except Unreadable Goal := do
  let times ← Json.member? members "times" Json.readAmount
  .ok (.visit (← Json.present times))

def visitOfItems (items : List Json) : Except Unreadable Goal := do
  let (times, items) ← Json.item Json.readAmount items
  Json.noMore items
  .ok (.visit times)

def kinds : List String := ["purchase_item", "visit"]

def ofTagged (form : Json.TagForm) : Json.Reader Goal := fun j => do
  let (kind, rest) ← Json.readTagged form "kind" kinds j
  if kind = "purchase_item" then Json.readRecord purchaseOfMembers purchaseOfItems rest
  else Json.readRecord visitOfMembers visitOfItems rest

def ofJson : Json.Reader Goal := ofTagged .named

end Goal

namespace Requirement

def toJson (r : Requirement) : Json :=
  .object [("goal", r.goal.toJson), ("validity", r.validity.toJson)]

def ofMembers (form : Json.TagForm) (members : List (String × Json)) :
    Except Unreadable Requirement := do
  let goal ← Json.member? members "goal" (Goal.ofTagged form)
  let validity ← Json.member? members "validity" (Validity.ofTagged form)
  .ok ⟨← Json.present goal, ← Json.present validity⟩

def ofItems (form : Json.TagForm) (items : List Json) : Except Unreadable Requirement := do
  let (goal, items) ← Json.item (Goal.ofTagged form) items
  let (validity, items) ← Json.item (Validity.ofTagged form) items
  Json.noMore items
  .ok ⟨goal, validity⟩

def ofTagged (form : Json.TagForm) : Json.Reader Requirement :=
  Json.readRecord (ofMembers form) (ofItems form)

def ofJson : Json.Reader Requirement := ofTagged .named

end Requirement

end Loyalty
