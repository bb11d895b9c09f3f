/-!
# Reports of failed checks

A form is checked as a whole: every check is made, and a report collects the failures in the order
of the checks. A form is accepted exactly when its report is empty.
-/

namespace Loyalty

structure Report (ε : Type) where
  entries : List ε
  deriving DecidableEq, Repr

namespace Report

variable {ε : Type}

def empty : Report ε := ⟨[]⟩

def push (r : Report ε) (e : ε) : Report ε := ⟨r.entries ++ [e]⟩

def check (r : Report ε) (failed : Bool) (e : ε) : Report ε := if failed then r.push e else r

def contains [BEq ε] (r : Report ε) (e : ε) : Bool := r.entries.contains e

def isEmpty (r : Report ε) : Bool := r.entries.isEmpty

def size (r : Report ε) : Nat := r.entries.length

def verdict (r : Report ε) : Except (Report ε) Unit :=
  match r.entries with
  | [] => .ok ()
  | _ :: _ => .error r

def map {δ : Type} (f : ε → δ) (r : Report ε) : Report δ := ⟨r.entries.map f⟩

def text (r : Report String) : String := " ".intercalate r.entries

@[simp] theorem entries_empty : (empty : Report ε).entries = [] := rfl

@[simp] theorem entries_push (r : Report ε) (e : ε) : (r.push e).entries = r.entries ++ [e] := rfl

@[simp] theorem entries_map {δ : Type} (f : ε → δ) (r : Report ε) :
    (r.map f).entries = r.entries.map f := rfl

theorem entries_check (r : Report ε) (failed : Bool) (e : ε) :
    (r.check failed e).entries = r.entries ++ if failed then [e] else [] := by
  cases failed <;> simp [check]

/-- A report of the checks that fail stays one after the next check. -/
theorem entries_check_of_filter {Fails : ε → Prop} [DecidablePred Fails] {checks : List ε}
    {r : Report ε} {failed : Bool} {e : ε} (h : r.entries = checks.filter fun e => Fails e)
    (hfailed : failed = true ↔ Fails e) :
    (r.check failed e).entries = (checks ++ [e]).filter fun e => Fails e := by
  rw [entries_check, h, List.filter_append]
  by_cases hfails : Fails e
  · simp [hfails, hfailed.2 hfails]
  · simp [hfails, mt hfailed.1 hfails]

theorem verdict_eq_ok_iff (r : Report ε) : r.verdict = .ok () ↔ r.entries = [] := by
  unfold verdict
  split
  · rename_i h
    simp [h]
  · rename_i h
    simp [h]

theorem verdict_of_ne_nil {r : Report ε} (h : r.entries ≠ []) : r.verdict = .error r := by
  unfold verdict
  split
  · rename_i hnil
    exact absurd hnil h
  · rfl

end Report

end Loyalty
