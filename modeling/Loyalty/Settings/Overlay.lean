import Loyalty.Json
import Loyalty.Settings.Path

/-!
# Laying values over values

An object is laid over what is below it member by member, and over an empty object where there is
none; any other value replaces what is below it. A value may also be laid at a path, where each step
makes the object or the list that it leads through. What is missing counts as null.
-/

namespace Loyalty

namespace Json

def members : Json → List (String × Json)
  | .object members => members
  | _ => []

def items : Json → List Json
  | .array items => items
  | _ => []

def memberOrNull (name : String) (members : List (String × Json)) : Json :=
  (members.lookup name).getD .null

def setMember (name : String) (value : Json) : List (String × Json) → List (String × Json)
  | [] => [(name, value)]
  | (n, v) :: ms => if n = name then (name, value) :: ms else (n, v) :: setMember name value ms

mutual

def overlay : Json → Json → Json
  | .object ms, below => .object (overlayMembers ms below.members)
  | .null, _ => .null
  | .bool b, _ => .bool b
  | .integer i, _ => .integer i
  | .double x, _ => .double x
  | .string s, _ => .string s
  | .array items, _ => .array items

def overlayMembers : List (String × Json) → List (String × Json) → List (String × Json)
  | [], below => below
  | (name, value) :: ms, below =>
    overlayMembers ms (setMember name (overlay value (memberOrNull name below)) below)

end

/-- Fills a list up with nulls until it has a given position, and counts that position from the
front. A position below zero is one from the end. -/
def makeRoom (position : Int) (items : List Json) : Nat × List Json :=
  if 0 ≤ position then
    (position.toNat, items ++ List.replicate (position.toNat + 1 - items.length) .null)
  else
    (items.length - position.natAbs,
      List.replicate (position.natAbs - items.length) .null ++ items)

def overlayAt (value : Json) : List PathStep → Json → Json
  | [], below => overlay value below
  | .member name :: path, below =>
    .object (setMember name (overlayAt value path (memberOrNull name below.members)) below.members)
  | .index position :: path, below =>
    let (place, items) := makeRoom position below.items
    .array (items.modify place (overlayAt value path))

end Json

end Loyalty
