import Loyalty.Calendar.Date
import Loyalty.Text.Decimal

/-!
# Written dates

A date is written as year, month and day with hyphens between them. Years from 0 to 9999 take four
digits, all others a sign and at least four digits. Reading is more lenient: fewer digits do, a
year may carry a sign and then have any number of digits, and blanks may stand before a number.
-/

namespace Loyalty

namespace Text

def padded (width n : Nat) : List Char := List.replicate (width - (digits n).length) '0' ++ digits n

def valueOf (ds : List Char) : Nat := ds.foldl (fun n c => n * 10 + (c.toNat - 48)) 0

/-- Reads as many digits as there are, at least one and at most `width`. -/
def readNumber (width : Nat) (cs : List Char) : Option (Nat × List Char) :=
  match (cs.take width).takeWhile Char.isDigit with
  | [] => none
  | d :: ds => some (valueOf (d :: ds), cs.drop (ds.length + 1))

def readChar (c : Char) : List Char → Option (List Char)
  | [] => none
  | x :: cs => if x = c then some cs else none

end Text

namespace Date

open Text

def yearText (year : Int) : List Char :=
  if 0 ≤ year ∧ year ≤ 9999 then padded 4 year.toNat
  else if year < 0 then '-' :: padded 4 year.natAbs
  else '+' :: padded 4 year.natAbs

def chars (d : Date) : List Char :=
  yearText d.year ++ '-' :: padded 2 d.month ++ '-' :: padded 2 d.day

def text (d : Date) : String := String.ofList d.chars

/-- Reads a year: up to four digits, or a sign and any number of digits. -/
def readYear (cs : List Char) : Option (Int × List Char) :=
  match cs with
  | '-' :: rest => (readNumber rest.length rest).map fun (n, rest) => (-(n : Int), rest)
  | '+' :: rest => (readNumber rest.length rest).map fun (n, rest) => ((n : Int), rest)
  | _ => (readNumber 4 cs).map fun (n, rest) => ((n : Int), rest)

/-- Reads a date that takes up the whole text. Blanks may stand before each number; `gap` removes
what may stand after one. -/
def readWith (gap : List Char → List Char) (cs : List Char) : Option Date := do
  let (year, cs) ← readYear (skipBlanks cs)
  let cs ← readChar '-' (gap cs)
  let (month, cs) ← readNumber 2 (skipBlanks cs)
  let cs ← readChar '-' (gap cs)
  let (day, cs) ← readNumber 2 (skipBlanks cs)
  if (gap cs).isEmpty then ofParts? year month day else none

def readTight (cs : List Char) : Option Date := readWith id cs

def readLoose (cs : List Char) : Option Date := readWith skipBlanks cs

end Date

end Loyalty
