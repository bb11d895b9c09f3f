import Loyalty.Text.Decimal
import Loyalty.Text.Fields

/-!
# Paths to settings

A path is a name and then, in any number, points with further names and brackets with positions. A
key that is no path is taken for one name.
-/

namespace Loyalty

inductive PathStep where
  | member (name : String)
  | index (position : Int)
  deriving DecidableEq, Repr

namespace PathStep

def isName (cs : List Char) : Bool :=
  !cs.isEmpty && cs.all fun c => c.isAlphanum || c == '_' || c == '-'

def isSpace (c : Char) : Bool := c == ' ' || c == '\t'

/-- Reads what follows an opening bracket: a position of 64 bits, which spaces may surround, and
the closing bracket. -/
def ofBracket? (cs : List Char) : Option PathStep :=
  let cs := cs.dropWhile isSpace
  let negative := cs.head? == some '-'
  let cs := if negative then cs.drop 1 else cs
  let digits := cs.takeWhile Char.isDigit
  let limit := if negative then Nat.pow 2 63 else Nat.pow 2 63 - 1
  if digits.isEmpty || (cs.dropWhile Char.isDigit).dropWhile isSpace != [']'] then none
  else
    match Text.readDigits limit .tooLarge 0 digits with
    | .ok n => some (.index (if negative then -(n : Int) else n))
    | .error _ => none

def ofPart? (cs : List Char) : Option (List PathStep) :=
  match Text.fields '[' cs with
  | [] => none
  | name :: brackets =>
    if isName name then
      (brackets.mapM ofBracket?).map fun positions => .member (String.ofList name) :: positions
    else none

def ofKey (key : List Char) : List PathStep :=
  match (Text.fields '.' key).mapM ofPart? with
  | some parts => parts.flatten
  | none => [.member (String.ofList key)]

end PathStep

end Loyalty
