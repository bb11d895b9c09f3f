import Loyalty.Json.Reader
import Loyalty.Settings

/-!
# Settings in JSON

Settings are records of records. A member with a default may be missing, but not null.
-/

namespace Loyalty

namespace Json

def readCount : Reader UInt32
  | .integer i => if 0 ≤ i ∧ i ≤ 4294967295 then .ok (UInt32.ofNat i.toNat) else .error .malformed
  | _ => .error .malformed

def memberOr {α : Type} (members : List (String × Json)) (name : String) (reader : Reader α)
    (fallback : α) : Except Unreadable α :=
  (member? members name reader).map fun found => found.getD fallback

def itemOr {α : Type} (reader : Reader α) (fallback : α) :
    List Json → Except Unreadable (α × List Json)
  | [] => .ok (fallback, [])
  | items => item reader items

def ofCount (n : UInt32) : Json := .integer n.toNat

end Json

namespace DatabaseSettings

def toJson (s : DatabaseSettings) : Json :=
  .object [("url", .string s.url), ("max_connections", Json.ofCount s.maxConnections),
    ("min_connections", Json.ofCount s.minConnections)]

def ofMembers (members : List (String × Json)) : Except Unreadable DatabaseSettings := do
  let maxConnections ← Json.memberOr members "max_connections" Json.readCount defaultMax
  let minConnections ← Json.memberOr members "min_connections" Json.readCount defaultMin
  let url ← Json.member? members "url" Json.readString
  .ok ⟨← Json.present url, maxConnections, minConnections⟩

def ofItems (items : List Json) : Except Unreadable DatabaseSettings := do
  let (url, items) ← Json.item Json.readString items
  let (maxConnections, items) ← Json.itemOr Json.readCount defaultMax items
  let (minConnections, items) ← Json.itemOr Json.readCount defaultMin items
  Json.noMore items
  .ok ⟨url, maxConnections, minConnections⟩

def ofJson : Json.Reader DatabaseSettings := Json.readRecord ofMembers ofItems

end DatabaseSettings

namespace LoggingSettings

def toJson (s : LoggingSettings) : Json :=
  .object [("filter", .string s.filter), ("json", .bool s.json)]

def ofMembers (members : List (String × Json)) : Except Unreadable LoggingSettings := do
  let filter ← Json.memberOr members "filter" Json.readString standard.filter
  let json ← Json.memberOr members "json" Json.readBool standard.json
  .ok ⟨filter, json⟩

def ofItems (items : List Json) : Except Unreadable LoggingSettings := do
  let (filter, items) ← Json.itemOr Json.readString standard.filter items
  let (json, items) ← Json.itemOr Json.readBool standard.json items
  Json.noMore items
  .ok ⟨filter, json⟩

def ofJson : Json.Reader LoggingSettings := Json.readRecord ofMembers ofItems

end LoggingSettings

namespace ProgramSettings

def toJson (s : ProgramSettings) : Json :=
  .object [("level_base_experience", Json.ofAmount s.levelBase)]

def ofMembers (members : List (String × Json)) : Except Unreadable ProgramSettings := do
  let levelBase ←
    Json.memberOr members "level_base_experience" Json.readAmount standard.levelBase
  .ok ⟨levelBase⟩

def ofItems (items : List Json) : Except Unreadable ProgramSettings := do
  let (levelBase, items) ← Json.itemOr Json.readAmount standard.levelBase items
  Json.noMore items
  .ok ⟨levelBase⟩

def ofJson : Json.Reader ProgramSettings := Json.readRecord ofMembers ofItems

end ProgramSettings

namespace Settings

def toJson (s : Settings) : Json :=
  .object [("database", s.database.toJson), ("logging", s.logging.toJson),
    ("program", s.program.toJson)]

def ofMembers (members : List (String × Json)) : Except Unreadable Settings := do
  let database ← Json.member? members "database" DatabaseSettings.ofJson
  let logging ← Json.memberOr members "logging" LoggingSettings.ofJson .standard
  let program ← Json.memberOr members "program" ProgramSettings.ofJson .standard
  .ok ⟨← Json.present database, logging, program⟩

def ofItems (items : List Json) : Except Unreadable Settings := do
  let (database, items) ← Json.item DatabaseSettings.ofJson items
  let (logging, items) ← Json.itemOr LoggingSettings.ofJson .standard items
  let (program, items) ← Json.itemOr ProgramSettings.ofJson .standard items
  Json.noMore items
  .ok ⟨database, logging, program⟩

def ofJson : Json.Reader Settings := Json.readRecord ofMembers ofItems

end Settings

end Loyalty
