/-!
# Calendar dates

Days of the Gregorian calendar, carried back before its introduction and with a year 0, from year
-262143 to year 262142. Dates are ordered by a rank, so that comparing two dates is comparing two
numbers, and are counted in days from 1970-01-01.
-/

namespace Loyalty

def isLeap (year : Int) : Bool := year % 4 == 0 && (year % 100 != 0 || year % 400 == 0)

/-- The number of days of a month, counted from 1; no other month has a day. -/
def daysIn (year : Int) (month : Nat) : Nat :=
  if month = 2 then (if isLeap year then 29 else 28)
  else if month = 4 ∨ month = 6 ∨ month = 9 ∨ month = 11 then 30
  else if 1 ≤ month ∧ month ≤ 12 then 31
  else 0

def IsDay (year : Int) (month day : Nat) : Prop :=
  -262143 ≤ year ∧ year ≤ 262142 ∧ 1 ≤ month ∧ month ≤ 12 ∧ 1 ≤ day ∧ day ≤ daysIn year month

instance (year : Int) (month day : Nat) : Decidable (IsDay year month day) :=
  inferInstanceAs (Decidable (_ ∧ _ ∧ _ ∧ _ ∧ _ ∧ _))

structure Date where
  year : Int
  month : Nat
  day : Nat
  isDay : IsDay year month day
  deriving DecidableEq, Repr

theorem daysIn_le (year : Int) (month : Nat) : daysIn year month ≤ 31 := by
  unfold daysIn
  split
  · split <;> omega
  · split
    · omega
    · split <;> omega

namespace Date

def ofParts? (year : Int) (month day : Nat) : Option Date :=
  if h : IsDay year month day then some ⟨year, month, day, h⟩ else none

@[simp] theorem ofParts?_eta (d : Date) : ofParts? d.year d.month d.day = some d := by
  simp [ofParts?, d.isDay]

/-- A number that grows with the date and tells any two dates apart. -/
def rank (d : Date) : Int := (d.year * 13 + d.month) * 32 + d.day

theorem rank_injective {a b : Date} (h : a.rank = b.rank) : a = b := by
  obtain ⟨_, _, hm₁, hm₂, hd₁, hd₂⟩ := a.isDay
  obtain ⟨_, _, hm₃, hm₄, hd₃, hd₄⟩ := b.isDay
  have ha := daysIn_le a.year a.month
  have hb := daysIn_le b.year b.month
  cases a with
  | mk y m d _ =>
    cases b with
    | mk y' m' d' _ =>
      simp only [rank] at h ha hb hm₁ hm₂ hm₃ hm₄ hd₁ hd₂ hd₃ hd₄
      have hd : d = d' := by omega
      have hm : m = m' := by omega
      have hy : y = y' := by omega
      subst hd hm hy
      rfl

instance : LE Date := ⟨fun a b => a.rank ≤ b.rank⟩

instance : LT Date := ⟨fun a b => a.rank < b.rank⟩

instance (a b : Date) : Decidable (a ≤ b) := inferInstanceAs (Decidable (a.rank ≤ b.rank))

instance (a b : Date) : Decidable (a < b) := inferInstanceAs (Decidable (a.rank < b.rank))

theorem le_def {a b : Date} : a ≤ b ↔ a.rank ≤ b.rank := Iff.rfl

theorem lt_def {a b : Date} : a < b ↔ a.rank < b.rank := Iff.rfl

/-- The date that lies a number of days after 1970-01-01. Years are counted from March in eras of
400 years, so that the leap day is the last day of its year. -/
def ofDays? (days : Int) : Option Date :=
  let shifted := days + 719468
  let era := shifted / 146097
  let dayOfEra := shifted % 146097
  let yearOfEra := (dayOfEra - dayOfEra / 1460 + dayOfEra / 36524 - dayOfEra / 146096) / 365
  let dayOfYear := dayOfEra - (365 * yearOfEra + yearOfEra / 4 - yearOfEra / 100)
  let monthFromMarch := (5 * dayOfYear + 2) / 153
  let day := dayOfYear - (153 * monthFromMarch + 2) / 5 + 1
  let month := if monthFromMarch < 10 then monthFromMarch + 3 else monthFromMarch - 9
  let year := yearOfEra + era * 400 + (if month ≤ 2 then 1 else 0)
  ofParts? year month.toNat day.toNat

/-- The date of a moment given in seconds from the start of 1970-01-01. -/
def ofSeconds? (seconds : Int) : Option Date := ofDays? (seconds / 86400)

end Date

end Loyalty
