import Loyalty.Calendar.Written
import Loyalty.Json

/-!
# Reading JSON

The rules by which values are read from JSON. Amounts must be whole numbers in range. A choice of
names may be written as the name or as an object from it to null. A record may be written as an
object, whose other members are ignored, or as the list of its fields in order. A tagged choice
carries its tag as a member, or as the first item of a list; inside details and progress, which
are one object for two records, the position of a tag may stand for it.

A value that cannot be read is malformed, unless a window that closes before it opens is the first
fault met. The members of an object are met in alphabetical order, and missing ones last.
-/

namespace Loyalty

inductive Unreadable where
  | malformed
  | inverted (opens closes : Date)
  deriving DecidableEq, Repr

namespace Unreadable

def message? : Unreadable → Option String
  | .malformed => none
  | .inverted opens closes =>
    some ("window begins " ++ opens.text ++ " after it ends " ++ closes.text)

end Unreadable

abbrev Json.Reader (α : Type) := Json → Except Unreadable α

namespace Json

def readBool : Reader Bool
  | .bool b => .ok b
  | _ => .error .malformed

def readString : Reader String
  | .string s => .ok s
  | _ => .error .malformed

def readAmount : Reader Amount
  | .integer i => (Amount.ofInt? i).elim (.error .malformed) .ok
  | _ => .error .malformed

def readDate : Reader Date
  | .string s => (Date.readLoose s.toList).elim (.error .malformed) .ok
  | _ => .error .malformed

/-- The name chosen: written alone, or as an object from it to null. -/
def readName : Reader String
  | .string s => .ok s
  | .object [(s, .null)] => .ok s
  | _ => .error .malformed

def readItems {α : Type} (reader : Reader α) : List Json → Except Unreadable (List α)
  | [] => .ok []
  | j :: js => do
    let a ← reader j
    let as ← readItems reader js
    .ok (a :: as)

def readList {α : Type} (reader : Reader α) : Reader (List α)
  | .array items => readItems reader items
  | _ => .error .malformed

def member? {α : Type} (members : List (String × Json)) (name : String) (reader : Reader α) :
    Except Unreadable (Option α) :=
  match members.lookup name with
  | none => .ok none
  | some j => (reader j).map some

def present {α : Type} : Option α → Except Unreadable α
  | none => .error .malformed
  | some a => .ok a

def item {α : Type} (reader : Reader α) : List Json → Except Unreadable (α × List Json)
  | [] => .error .malformed
  | j :: rest => (reader j).map fun a => (a, rest)

def noMore : List Json → Except Unreadable Unit
  | [] => .ok ()
  | _ :: _ => .error .malformed

/-- Reads a record from an object or from the list of its fields. -/
def readRecord {α : Type} (ofMembers : List (String × Json) → Except Unreadable α)
    (ofItems : List Json → Except Unreadable α) : Reader α
  | .object members => ofMembers members
  | .array items => ofItems items
  | _ => .error .malformed

/-- How tags are written: as names, or also as positions in the list of names. -/
inductive TagForm where
  | named
  | numbered
  deriving DecidableEq, Repr

def readTag (form : TagForm) (names : List String) : Reader String
  | .string name => if names.contains name then .ok name else .error .malformed
  | .integer i =>
    if form = .numbered ∧ 0 ≤ i then present names[i.toNat]? else .error .malformed
  | _ => .error .malformed

def readTagged (form : TagForm) (tag : String) (names : List String) :
    Json → Except Unreadable (String × Json)
  | .object members => do
    let name ← present (← member? members tag (readTag form names))
    .ok (name, .object (members.filter fun m => m.1 != tag))
  | .array items => do
    let (name, rest) ← item (readTag form names) items
    .ok (name, .array rest)
  | _ => .error .malformed

def readBare : Reader Unit
  | .object _ => .ok ()
  | .array [] => .ok ()
  | _ => .error .malformed

@[simp] theorem readAmount_ofAmount (a : Amount) : readAmount (ofAmount a) = .ok a := by
  simp [readAmount, ofAmount]

end Json

end Loyalty
