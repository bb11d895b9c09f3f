import Loyalty.Identifiers
import Loyalty.Validity

/-!
# Requirements

What an achievement asks for: to buy an item a number of times or to visit a number of times, on
the days of a validity.
-/

namespace Loyalty

inductive Goal where
  | purchase (item : String) (quantity : Amount)
  | visit (times : Amount)
  deriving DecidableEq, Repr

namespace Goal

def target : Goal → Amount
  | .purchase _ quantity => quantity
  | .visit times => times

/-- The number that stands for the kind of action in the compact text form. -/
def typeCode : Goal → Amount
  | .purchase .. => 0
  | .visit .. => 1

end Goal

structure Requirement where
  goal : Goal
  validity : Validity
  deriving DecidableEq, Repr

namespace Requirement

def target (r : Requirement) : Amount := r.goal.target

def statusOn (r : Requirement) (day : Date) : WindowStatus := r.validity.statusOn day

end Requirement

end Loyalty
