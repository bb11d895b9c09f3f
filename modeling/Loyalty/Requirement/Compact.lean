import Loyalty.Calendar.Written
import Loyalty.Requirement
import Loyalty.Text.Fields

/-!
# The compact form of requirements

A type code and five fields with semicolons between them: item, amount, indefinite flag, first day
and last day. Reading checks the fields in a fixed order and refuses a text for its first fault;
under a set flag the two days are not looked at.
-/

namespace Loyalty

inductive WindowEnd where
  | first
  | last
  deriving DecidableEq, Repr

namespace WindowEnd

def name : WindowEnd → String
  | .first => "begin"
  | .last => "end"

end WindowEnd

/-- Why a compact form is refused. A field is reported as it stood, blanks included. -/
inductive CompactFault where
  | fieldCount (found : Nat)
  | unknownType (code : Amount)
  | invalidAmount (field : String)
  | invalidFlag (field : String)
  | invalidDate (whichEnd : WindowEnd) (field : String)
  | invertedWindow
  deriving DecidableEq, Repr

namespace CompactFault

def message : CompactFault → String
  | .fieldCount found =>
    "Invalid requirement: expected 5 fields, found " ++ String.ofList (Text.digits found) ++ "."
  | .unknownType code => "Invalid requirement type " ++ Text.ofAmount code ++ "."
  | .invalidAmount field => "Invalid requirement amount '" ++ field ++ "'."
  | .invalidFlag field => "Invalid indefinite flag '" ++ field ++ "'."
  | .invalidDate whichEnd field => "Invalid " ++ whichEnd.name ++ " date '" ++ field ++ "'."
  | .invertedWindow => "Invalid date interval, begin date must be before end date."

end CompactFault

namespace Requirement

open Text

def readAmountField (field : List Char) : Except CompactFault Amount :=
  match readAmount (trim field) with
  | .ok amount => .ok amount
  | .error _ => .error (.invalidAmount (String.ofList field))

def goalOf (code : Amount) (item : List Char) (amount : Amount) : Except CompactFault Goal :=
  if code = 0 then .ok (.purchase (String.ofList (trim item)) amount)
  else if code = 1 then .ok (.visit amount)
  else .error (.unknownType code)

def readFlag (field : List Char) : Except CompactFault Bool :=
  let word := (trim field).map Char.toLower
  if word = ['t', 'r', 'u', 'e'] then .ok true
  else if word = ['f', 'a', 'l', 's', 'e'] then .ok false
  else .error (.invalidFlag (String.ofList field))

def readEnd (whichEnd : WindowEnd) (field : List Char) : Except CompactFault Date :=
  match Date.readTight (trim field) with
  | some date => .ok date
  | none => .error (.invalidDate whichEnd (String.ofList field))

def readValidity (indefinite : Bool) (first last : List Char) : Except CompactFault Validity :=
  if indefinite then .ok .indefinite
  else do
    let opens ← readEnd .first first
    let closes ← readEnd .last last
    match DateWindow.ofDates? opens closes with
    | some w => .ok (.window w)
    | none => .error .invertedWindow

def ofCompact (code : Amount) (value : String) : Except CompactFault Requirement :=
  match fields ';' value.toList with
  | [item, amount, flag, first, last] => do
    let amount ← readAmountField amount
    let goal ← goalOf code item amount
    let indefinite ← readFlag flag
    let validity ← readValidity indefinite first last
    .ok ⟨goal, validity⟩
  | parts => .error (.fieldCount parts.length)

/-- The item field; visits leave it empty. -/
def itemField : Goal → List Char
  | .purchase item _ => item.toList
  | .visit _ => []

def validityFields : Validity → List Char
  | .indefinite => "True;;".toList
  | .window w => "False;".toList ++ w.opens.chars ++ ';' :: w.closes.chars

def toCompact (r : Requirement) : Amount × String :=
  (r.goal.typeCode, String.ofList (itemField r.goal ++ ';' :: ofInt r.target.toInt ++
    ';' :: validityFields r.validity))

end Requirement

end Loyalty
