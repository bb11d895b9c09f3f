import Loyalty.Json.Reader
import Loyalty.Validity

/-!
# Validities in JSON

A status is written as its name, a date as its text and a window as its two days. A validity
carries the tag `kind`; a window puts its days beside the tag.
-/

namespace Loyalty

def Date.toJson (d : Date) : Json := .string d.text

namespace WindowStatus

def name : WindowStatus → String
  | .before => "before"
  | .active => "active"
  | .after => "after"

def ofName? (name : String) : Option WindowStatus :=
  if name = "before" then some .before
  else if name = "active" then some .active
  else if name = "after" then some .after
  else none

def toJson (s : WindowStatus) : Json := .string s.name

def ofJson : Json.Reader WindowStatus := fun j => do
  let name ← Json.readName j
  Json.present (ofName? name)

end WindowStatus

namespace DateWindow

def ordered (opens closes : Date) : Except Unreadable DateWindow :=
  (ofDates? opens closes).elim (.error (.inverted opens closes)) .ok

def members (w : DateWindow) : List (String × Json) :=
  [("begin", w.opens.toJson), ("end", w.closes.toJson)]

def toJson (w : DateWindow) : Json := .object w.members

def ofMembers (members : List (String × Json)) : Except Unreadable DateWindow := do
  let opens ← Json.member? members "begin" Json.readDate
  let closes ← Json.member? members "end" Json.readDate
  ordered (← Json.present opens) (← Json.present closes)

def ofItems (items : List Json) : Except Unreadable DateWindow := do
  let (opens, items) ← Json.item Json.readDate items
  let (closes, items) ← Json.item Json.readDate items
  Json.noMore items
  ordered opens closes

def ofJson : Json.Reader DateWindow := Json.readRecord ofMembers ofItems

end DateWindow

namespace Validity

def toJson : Validity → Json
  | .indefinite => .object [("kind", .string "indefinite")]
  | .window w => .object (("kind", .string "window") :: w.members)

def kinds : List String := ["indefinite", "window"]

def ofTagged (form : Json.TagForm) : Json.Reader Validity := fun j => do
  let (kind, rest) ← Json.readTagged form "kind" kinds j
  if kind = "indefinite" then
    Json.readBare rest
    .ok .indefinite
  else .ok (.window (← DateWindow.ofJson rest))

def ofJson : Json.Reader Validity := ofTagged .named

end Validity

end Loyalty
