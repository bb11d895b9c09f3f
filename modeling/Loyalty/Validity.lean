import Loyalty.Calendar.Date

/-!
# Validity

A coupon or an achievement is valid without end or within a window of days, both ends included. A
window never ends before it begins. A day lies before, in or after a validity.
-/

namespace Loyalty

inductive WindowStatus where
  | before
  | active
  | after
  deriving DecidableEq, Repr

/-- A range of days, both ends included. -/
structure DateWindow where
  opens : Date
  closes : Date
  opens_le_closes : opens ≤ closes
  deriving DecidableEq, Repr

namespace DateWindow

def ofDates? (opens closes : Date) : Option DateWindow :=
  if h : opens ≤ closes then some ⟨opens, closes, h⟩ else none

def statusOn (w : DateWindow) (day : Date) : WindowStatus :=
  if w.closes < day then .after else if day < w.opens then .before else .active

theorem ofDates?_eq_none_iff {a b : Date} : ofDates? a b = none ↔ b < a := by
  unfold ofDates?
  split <;> rename_i h <;> simp only [reduceCtorEq, true_iff, false_iff] <;>
    rw [Date.le_def] at h <;> rw [Date.lt_def] <;> omega

@[simp] theorem ofDates?_eta (w : DateWindow) : ofDates? w.opens w.closes = some w := by
  simp [ofDates?, w.opens_le_closes]

end DateWindow

inductive Validity where
  | indefinite
  | window (w : DateWindow)
  deriving DecidableEq, Repr

namespace Validity

/-- The validity that two optional ends describe: none means indefinite, both a window. One end
alone, or a window that closes before it opens, describes nothing. -/
def ofEnds? : Option Date → Option Date → Option Validity
  | none, none => some .indefinite
  | some opens, some closes => (DateWindow.ofDates? opens closes).map .window
  | _, _ => none

def isIndefinite : Validity → Bool
  | .indefinite => true
  | .window _ => false

def opens? : Validity → Option Date
  | .indefinite => none
  | .window w => some w.opens

def closes? : Validity → Option Date
  | .indefinite => none
  | .window w => some w.closes

def statusOn : Validity → Date → WindowStatus
  | .indefinite, _ => .active
  | .window w, day => w.statusOn day

def hasEndedOn (v : Validity) (day : Date) : Bool :=
  match v.closes? with
  | none => false
  | some closes => decide (closes < day)

@[simp] theorem ofEnds?_opens?_closes? (v : Validity) : ofEnds? v.opens? v.closes? = some v := by
  cases v <;> simp [ofEnds?, opens?, closes?]

end Validity

end Loyalty
