import Loyalty.Json
import Loyalty.Text.Fields

/-!
# Settings files

The files lie in the folder `config`, which lies in the folder that the program runs in, or in
folders near it. Each has the extension `.json` and is found by a path from the folder that the
program runs in. The extension may be left out, but a file that the path names in full comes first.
-/

namespace Loyalty

structure FilePlace where
  folder : List String
  name : String
  deriving DecidableEq, Repr

namespace FilePlace

def pieces (path : String) : List String := (Text.fields '/' path.toList).map String.ofList

/-- Pieces that are empty, or a single point, lead nowhere else. -/
def steps (path : String) : List String :=
  (pieces path).filter fun piece => piece != "" && piece != "."

def walk (isFolder : List String → Bool) : List String → List String → Option (List String)
  | here, [] => some here
  | here, step :: rest =>
    if step = ".." then
      if here = [] then none else walk isFolder here.dropLast rest
    else if isFolder (here ++ [step]) then walk isFolder (here ++ [step]) rest
    else none

def ofPath? (isFolder : List String → Bool) (path : String) : Option FilePlace := do
  let folder ← walk isFolder [] (steps path).dropLast
  let name ← (steps path).getLast?
  if name = ".." then none else some ⟨folder, name⟩

/-- A point at the front of a name begins no extension. -/
def hasExtension (place : FilePlace) : Bool := (place.name.toList.drop 1).contains '.'

def withJson (place : FilePlace) : FilePlace := ⟨place.folder, place.name ++ ".json"⟩

end FilePlace

/-- Settings files by their paths from the folder `config`, without the extension. -/
abbrev SettingFiles := List (String × Json)

namespace SettingFiles

def placed (files : SettingFiles) : List (FilePlace × Json) :=
  files.filterMap fun (name, contents) =>
    (FilePlace.ofPath? (fun _ => true) ("config/" ++ name ++ ".json")).map fun place =>
      (place, contents)

def isFolder (files : SettingFiles) (folder : List String) : Bool :=
  folder == ["config"] || files.placed.any fun file => folder.isPrefixOf file.1.folder

/-- The contents of the file at a place; of several files there the last one stays. -/
def at? (files : SettingFiles) (place : FilePlace) : Option Json :=
  files.placed.reverse.lookup place

/-- The contents found by a path. No file is read whose name is no more than an extension. A path
that goes on behind a name, as with a slash, finds the file only where the name has no extension. -/
def contents? (files : SettingFiles) (path : String) : Option Json := do
  let place ← FilePlace.ofPath? files.isFolder path
  if (FilePlace.pieces path).getLast? = some place.name then
    match files.at? place with
    | some contents => if place.hasExtension then some contents else none
    | none => files.at? place.withJson
  else if place.hasExtension then none
  else files.at? place.withJson

end SettingFiles

end Loyalty
