import Loyalty.Settings.Files
import Loyalty.Settings.Lenient
import Loyalty.Settings.Overlay

/-!
# Layers of settings

Settings come from the default file, from the file of the mode that the program runs in, and from
variables, each laid over the one before. The keys of a file are paths; in the name of a variable
two underscores stand for a point.
-/

namespace Loyalty

structure SettingSources where
  files : SettingFiles
  environment : List (String × String)

namespace SettingSources

/-- A letter in lower case. The Kelvin sign is the only one outside ASCII that has it in ASCII. -/
def lowerLetter (c : Char) : Char := if c = '\u212a' then 'k' else c.toLower

def pointed : List Char → List Char
  | '_' :: '_' :: cs => '.' :: pointed cs
  | c :: cs => c :: pointed cs
  | [] => []

/-- The beginning of the variables that hold settings, in letters of either case. -/
def mark : List Char := "punchcard__".toList

def variablePath? (name : String) : Option (List PathStep) :=
  let cs := name.toList.map lowerLetter
  if mark.isPrefixOf cs then some (PathStep.ofKey (pointed (cs.drop mark.length))) else none

def mode (s : SettingSources) : String := (s.environment.lookup "RUN_MODE").getD "development"

/-- Lays the members of a file over the settings so far. A file may be missing, but one that is
found must hold an object. -/
def layFile (s : SettingSources) (name : String) (below : Json) : Option Json :=
  match s.files.contents? ("config/" ++ name) with
  | none => some below
  | some (.object members) =>
    some (members.foldl (fun j m => Json.overlayAt m.2 (PathStep.ofKey m.1.toList) j) below)
  | some _ => none

def layVariable (below : Json) (v : String × String) : Json :=
  match variablePath? v.1 with
  | none => below
  | some path => Json.overlayAt (.string v.2) path below

def layered (s : SettingSources) : Option Json := do
  let j ← s.layFile "default" (.object [])
  let j ← s.layFile s.mode j
  some (s.environment.foldl layVariable j)

def load (s : SettingSources) : Option Settings := s.layered.bind Settings.ofLenient

end SettingSources

end Loyalty
