import Loyalty.Text.Blank

/-!
# Whole numbers in decimal

Amounts are 32-bit whole numbers. They are written with the fewest digits and a minus sign where
needed, and read with an optional sign and any number of leading zeros. A text that denotes no
amount is refused for its first fault from the left.
-/

namespace Loyalty

/-- Points, experience, prices, levels and counts of actions are 32-bit whole numbers. -/
abbrev Amount := Int32

namespace Amount

def ofInt? (i : Int) : Option Amount :=
  if -2147483648 ≤ i ∧ i ≤ 2147483647 then some (Int32.ofInt i) else none

def add? (a b : Amount) : Option Amount := ofInt? (a.toInt + b.toInt)

def sub? (a b : Amount) : Option Amount := ofInt? (a.toInt - b.toInt)

theorem bounds (a : Amount) : -2147483648 ≤ a.toInt ∧ a.toInt ≤ 2147483647 := by
  have h₁ := Int32.le_toInt a
  have h₂ := Int32.toInt_lt a
  omega

theorem ofInt?_eq_some_iff {i : Int} {a : Amount} : ofInt? i = some a ↔ a.toInt = i := by
  unfold ofInt?
  split
  · rename_i h
    have hi : (Int32.ofInt i).toInt = i := Int32.toInt_ofInt_of_le (by omega) (by omega)
    rw [Option.some.injEq, ← Int32.toInt_inj, hi, eq_comm]
  · rename_i h
    have := bounds a
    simp only [reduceCtorEq, false_iff]
    omega

@[simp] theorem ofInt?_toInt (a : Amount) : ofInt? a.toInt = some a := ofInt?_eq_some_iff.2 rfl

theorem ofInt?_eq_none_iff {i : Int} : ofInt? i = none ↔ i < -2147483648 ∨ 2147483647 < i := by
  unfold ofInt?
  split <;> simp <;> omega

end Amount

namespace Text

inductive NumberFault where
  | empty
  | badDigit
  | tooLarge
  | tooSmall
  deriving DecidableEq, Repr

namespace NumberFault

def message : NumberFault → String
  | .empty => "cannot parse integer from empty string"
  | .badDigit => "invalid digit found in string"
  | .tooLarge => "number too large to fit in target type"
  | .tooSmall => "number too small to fit in target type"

end NumberFault

def digit? (c : Char) : Option Nat := if c.isDigit then some (c.toNat - 48) else none

/-- Reads digits from the left onto `acc`. The first character that is no digit, or that carries
the value beyond `limit`, decides the fault. -/
def readDigits (limit : Nat) (beyond : NumberFault) : Nat → List Char → Except NumberFault Nat
  | acc, [] => .ok acc
  | acc, c :: cs =>
    match digit? c with
    | none => .error .badDigit
    | some d =>
      if acc * 10 + d ≤ limit then readDigits limit beyond (acc * 10 + d) cs else .error beyond

def readNat (limit : Nat) : List Char → Except NumberFault Nat
  | [] => .error .empty
  | '+' :: c :: cs => readDigits limit .tooLarge 0 (c :: cs)
  | cs => readDigits limit .tooLarge 0 cs

def readAmount : List Char → Except NumberFault Amount
  | '-' :: c :: cs => (readDigits 2147483648 .tooSmall 0 (c :: cs)).map fun n => Int32.ofInt (-n)
  | cs => (readNat 2147483647 cs).map fun n => Int32.ofInt n

def digits (n : Nat) : List Char := Nat.toDigits 10 n

def ofInt (i : Int) : List Char := if i < 0 then '-' :: digits i.natAbs else digits i.natAbs

def ofAmount (a : Amount) : String := String.ofList (ofInt a.toInt)

end Text

end Loyalty
