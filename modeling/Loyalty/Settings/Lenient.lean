import Loyalty.Double.Literal
import Loyalty.Json
import Loyalty.Settings

/-!
# Lenient settings

The conversions by which settings are taken from files and variables. Texts stand for numbers and
for switches, switches for 0 and 1, and a double for the nearest whole number. A section is an
object, or the list of its fields in order.
-/

namespace Loyalty

namespace Json

def yesWords : List String := ["true", "on", "yes"]

def noWords : List String := ["false", "off", "no"]

def wordNumber? (s : String) : Option Nat :=
  if yesWords.contains s.toLower then some 1
  else if noWords.contains s.toLower then some 0
  else none

def asAmount : Json → Option Amount
  | .bool b => some (if b then 1 else 0)
  | .integer i => Amount.ofInt? i
  | .double x => Amount.ofInt? x.nearest
  | .string s =>
    match wordNumber? s with
    | some n => Amount.ofInt? n
    | none => (Text.readAmount s.toList).toOption
  | _ => none

def countOf? (i : Int) : Option UInt32 :=
  if 0 ≤ i ∧ i ≤ 4294967295 then some (UInt32.ofNat i.toNat) else none

/-- A count; a double below zero stands for 0. -/
def asCount : Json → Option UInt32
  | .bool b => some (if b then 1 else 0)
  | .integer i => countOf? i
  | .double x => countOf? (max 0 x.nearest)
  | .string s =>
    match wordNumber? s with
    | some n => countOf? n
    | none => ((Text.readNat 4294967295 s.toList).toOption).map UInt32.ofNat
  | _ => none

def asSwitch : Json → Option Bool
  | .bool b => some b
  | .integer i => some (i != 0)
  | .double x => some (!x.isZero)
  | .string s =>
    if s = "1" then some true
    else if s = "0" then some false
    else (wordNumber? s).map fun n => n == 1
  | _ => none

def asText : Json → Option String
  | .bool b => some (if b then "true" else "false")
  | .integer i => some (String.ofList (Text.ofInt i))
  | .double x => some x.text
  | .string s => some s
  | _ => none

def field? (position : Nat) (name : String) : Json → Option (Option Json)
  | .object members => some (members.lookup name)
  | .array items => some items[position]?
  | _ => none

def fieldOr {α : Type} (part : Json) (position : Nat) (name : String)
    (convert : Json → Option α) (fallback : α) : Option α := do
  match ← part.field? position name with
  | none => some fallback
  | some value => convert value

def requiredField {α : Type} (part : Json) (position : Nat) (name : String)
    (convert : Json → Option α) : Option α := do
  (← part.field? position name).bind convert

end Json

def DatabaseSettings.ofLenient (j : Json) : Option DatabaseSettings := do
  let url ← j.requiredField 0 "url" Json.asText
  let maxConnections ← j.fieldOr 1 "max_connections" Json.asCount defaultMax
  let minConnections ← j.fieldOr 2 "min_connections" Json.asCount defaultMin
  some ⟨url, maxConnections, minConnections⟩

def LoggingSettings.ofLenient (j : Json) : Option LoggingSettings := do
  let filter ← j.fieldOr 0 "filter" Json.asText standard.filter
  let json ← j.fieldOr 1 "json" Json.asSwitch standard.json
  some ⟨filter, json⟩

def ProgramSettings.ofLenient (j : Json) : Option ProgramSettings := do
  let levelBase ← j.fieldOr 0 "level_base_experience" Json.asAmount standard.levelBase
  some ⟨levelBase⟩

def Settings.ofLenient (j : Json) : Option Settings := do
  let database ← j.requiredField 0 "database" DatabaseSettings.ofLenient
  let logging ← j.fieldOr 1 "logging" LoggingSettings.ofLenient .standard
  let program ← j.fieldOr 2 "program" ProgramSettings.ofLenient .standard
  some ⟨database, logging, program⟩

end Loyalty
