/-!
# Stages of a race

The callers that race for one row, seen from afar. All that counts of the row is how many actions
were counted on it, or that it is gone; all that counts of a caller is where it stands. A stage is
served against the row, one caller at a time and in any order.
-/

namespace Loyalty

/-- Where a caller stands. It counted nothing yet, found no room in the row, holds a full row, is
about to ask for the reward, or has ended in one of four ways. -/
inductive Stage where
  | fresh
  | missed
  | full
  | ready
  | advanced (count : Nat)
  | paid
  | absent
  | late
  deriving DecidableEq

namespace Stage

def isOver : Stage → Bool
  | .fresh | .missed | .full | .ready => false
  | .advanced _ | .paid | .absent | .late => true

def count? : Stage → Option Nat
  | .advanced count => some count
  | _ => none

/-- What becomes of the row and of a caller that is served, where `size` actions fill the row. -/
def serve (size : Nat) : Option Nat → Stage → Option Nat × Stage
  | some n, .fresh =>
    if n < size then (some (n + 1), if n + 1 = size then .full else .advanced (n + 1))
    else (some n, .missed)
  | none, .fresh => (none, .missed)
  | some n, .missed => (some n, if n = size then .full else .absent)
  | none, .missed => (none, .absent)
  | row, .full => (row, .ready)
  | some n, .ready => if n = size then (none, .paid) else (some n, .late)
  | none, .ready => (none, .late)
  | row, stage => (row, stage)

def calls : Stage → Nat
  | .fresh => 0
  | .missed => 1
  | .full => 2
  | .ready => 3
  | _ => 4

theorem calls_lt_serve (size : Nat) (row : Option Nat) {stage : Stage} (h : stage.isOver = false) :
    stage.calls < (serve size row stage).2.calls := by
  cases stage with
  | fresh | missed | ready =>
    cases row with
    | none => simp [serve, calls]
    | some n =>
      simp only [serve]
      repeat' split
      all_goals simp [calls]
  | full => simp [serve, calls]
  | _ => cases h

theorem calls_lt_four {stage : Stage} (h : stage.isOver = false) : stage.calls < 4 := by
  cases stage with
  | fresh | missed | full | ready => decide
  | _ => cases h

end Stage

def steps (n : Nat) : List Nat := (List.range n).map (· + 1)

theorem steps_succ (n : Nat) : steps (n + 1) = steps n ++ [n + 1] := by
  rw [steps, List.range_succ, List.map_append]
  rfl

theorem length_steps (n : Nat) : (steps n).length = n := by
  rw [steps, List.length_map, List.length_range]

def counts (stages : List Stage) : List Nat := stages.filterMap Stage.count?

/-- How a race stands. While the row has room, nobody did anything but count. A full row is held by
somebody. A row that is gone was paid for once. -/
inductive Lap (size : Nat) : Option Nat → List Stage → Prop
  | running {n : Nat} {stages : List Stage} (hroom : n < size)
      (hstages : ∀ x ∈ stages, x = .fresh ∨ ∃ m, x = .advanced m)
      (hcounts : (counts stages).Perm (steps n)) : Lap size (some n) stages
  | full {stages : List Stage} (hheld : ∃ x ∈ stages, x = .full ∨ x = .ready)
      (hstages : ∀ x ∈ stages, x ≠ .paid ∧ x ≠ .absent ∧ x ≠ .late)
      (hcounts : (counts stages).Perm (steps (size - 1))) : Lap size (some size) stages
  | gone {stages : List Stage} (hpaid : stages.count .paid = 1)
      (hcounts : (counts stages).Perm (steps (size - 1))) : Lap size none stages

/-- A list around one of its places. -/
theorem exists_around {α : Type} {xs : List α} {i : Nat} {x : α} (h : xs[i]? = some x) :
    ∃ before after, xs = before ++ x :: after ∧ ∀ y, xs.set i y = before ++ y :: after := by
  obtain ⟨hi, rfl⟩ := List.getElem?_eq_some_iff.1 h
  refine ⟨xs.take i, xs.drop (i + 1), ?_, ?_⟩
  · rw [← List.drop_eq_getElem_cons hi, List.take_append_drop]
  · intro y
    rw [List.set_eq_take_append_cons_drop, if_pos hi]

theorem counts_around (before after : List Stage) (stage : Stage) :
    counts (before ++ stage :: after) = counts before ++ (stage.count?.toList ++ counts after) := by
  rw [counts, List.filterMap_append, List.filterMap_cons]
  cases stage.count? <;> rfl

theorem counts_replace {before after : List Stage} {stage next : Stage}
    (h : stage.count? = next.count?) :
    counts (before ++ next :: after) = counts (before ++ stage :: after) := by
  rw [counts_around, counts_around, h]

namespace Lap

variable {size n i : Nat} {before after : List Stage} {stage : Stage}

theorem serve_running (hroom : n < size)
    (hstages : ∀ x ∈ before ++ stage :: after, x = .fresh ∨ ∃ m, x = .advanced m)
    (hcounts : (counts (before ++ stage :: after)).Perm (steps n)) :
    Lap size (stage.serve size (some n)).1 (before ++ (stage.serve size (some n)).2 :: after) := by
  have hothers : ∀ x, x ∈ before ∨ x ∈ after → x = .fresh ∨ ∃ m, x = .advanced m := by
    rintro x (hx | hx) <;> exact hstages x (by simp [hx])
  rcases hstages stage (by simp) with rfl | ⟨m, rfl⟩
  · simp only [Stage.serve, if_pos hroom]
    split
    · rename_i hsize
      subst hsize
      refine .full ⟨.full, by simp, Or.inl rfl⟩ ?_ ?_
      · intro x hx
        rcases List.mem_append.1 hx with hx | hx
        · rcases hothers x (Or.inl hx) with rfl | ⟨m, rfl⟩ <;> simp
        · rcases List.mem_cons.1 hx with rfl | hx
          · simp
          · rcases hothers x (Or.inr hx) with rfl | ⟨m, rfl⟩ <;> simp
      · have hcount : Stage.fresh.count? = Stage.full.count? := rfl
        rw [counts_replace hcount]
        exact hcounts
    · refine .running (by omega) ?_ ?_
      · intro x hx
        rcases List.mem_append.1 hx with hx | hx
        · exact hothers x (Or.inl hx)
        · rcases List.mem_cons.1 hx with rfl | hx
          · exact Or.inr ⟨n + 1, rfl⟩
          · exact hothers x (Or.inr hx)
      · rw [steps_succ, counts_around]
        rw [counts_around] at hcounts
        refine List.Perm.trans ?_ (List.perm_append_singleton (n + 1) (steps n)).symm
        exact List.perm_middle.trans (hcounts.cons (n + 1))
  · exact .running hroom hstages hcounts

theorem serve_full (hheld : ∃ x ∈ before ++ stage :: after, x = .full ∨ x = .ready)
    (hstages : ∀ x ∈ before ++ stage :: after, x ≠ .paid ∧ x ≠ .absent ∧ x ≠ .late)
    (hcounts : (counts (before ++ stage :: after)).Perm (steps (size - 1))) :
    Lap size (stage.serve size (some size)).1
      (before ++ (stage.serve size (some size)).2 :: after) := by
  have hreplace : ∀ next : Stage, (next ≠ .paid ∧ next ≠ .absent ∧ next ≠ .late) →
      stage.count? = next.count? → (stage = .full ∨ stage = .ready → next = .full ∨ next = .ready) →
      Lap size (some size) (before ++ next :: after) := by
    intro next hnext hcount hholds
    refine .full ?_ ?_ ?_
    · obtain ⟨x, hx, hholder⟩ := hheld
      simp only [List.mem_append, List.mem_cons] at hx
      rcases hx with hx | rfl | hx
      · exact ⟨x, by simp [hx], hholder⟩
      · exact ⟨next, by simp, hholds hholder⟩
      · exact ⟨x, by simp [hx], hholder⟩
    · intro x hx
      simp only [List.mem_append, List.mem_cons] at hx
      rcases hx with hx | rfl | hx
      · exact hstages x (by simp [hx])
      · exact hnext
      · exact hstages x (by simp [hx])
    · rw [counts_replace hcount]
      exact hcounts
  obtain ⟨hpaid, habsent, hlate⟩ := hstages stage (by simp)
  cases stage with
  | fresh =>
    simp only [Stage.serve, Nat.lt_irrefl, if_false]
    exact hreplace .missed (by decide) rfl (by decide)
  | missed =>
    simp only [Stage.serve, if_true]
    exact hreplace .full (by decide) rfl (by decide)
  | full => exact hreplace .ready (by decide) rfl (by decide)
  | ready =>
    simp only [Stage.serve, if_true]
    refine .gone ?_ ?_
    · have hnone : ∀ x, x ∈ before ∨ x ∈ after → x ≠ .paid := by
        rintro x (hx | hx) <;> exact (hstages x (by simp [hx])).1
      rw [List.count_append, List.count_cons_self,
        List.count_eq_zero_of_not_mem fun h => hnone _ (Or.inl h) rfl,
        List.count_eq_zero_of_not_mem fun h => hnone _ (Or.inr h) rfl]
    · have hcount : Stage.ready.count? = Stage.paid.count? := rfl
      rw [counts_replace hcount]
      exact hcounts
  | advanced m => exact .full hheld hstages hcounts
  | paid => exact absurd rfl hpaid
  | absent => exact absurd rfl habsent
  | late => exact absurd rfl hlate

theorem serve_gone (hpaid : (before ++ stage :: after).count .paid = 1)
    (hcounts : (counts (before ++ stage :: after)).Perm (steps (size - 1))) :
    Lap size (stage.serve size none).1 (before ++ (stage.serve size none).2 :: after) := by
  have hreplace : ∀ next : Stage, stage ≠ .paid → next ≠ .paid → stage.count? = next.count? →
      Lap size none (before ++ next :: after) := by
    intro next hstage hnext hcount
    refine .gone ?_ ?_
    · rw [List.count_append, List.count_cons_of_ne hnext]
      rwa [List.count_append, List.count_cons_of_ne hstage] at hpaid
    · rw [counts_replace hcount]
      exact hcounts
  cases stage with
  | fresh => exact hreplace .missed (by decide) (by decide) rfl
  | missed => exact hreplace .absent (by decide) (by decide) rfl
  | full => exact hreplace .ready (by decide) (by decide) rfl
  | ready => exact hreplace .late (by decide) (by decide) rfl
  | advanced | paid | absent | late => exact .gone hpaid hcounts

/-- Serving a caller keeps the standing of a race. -/
theorem serve {row : Option Nat} {stages : List Stage} (h : Lap size row stages)
    (hstage : stages[i]? = some stage) :
    Lap size (stage.serve size row).1 (stages.set i (stage.serve size row).2) := by
  obtain ⟨before, after, rfl, hset⟩ := exists_around hstage
  rw [hset]
  cases h with
  | running hroom hstages hcounts => exact serve_running hroom hstages hcounts
  | full hheld hstages hcounts => exact serve_full hheld hstages hcounts
  | gone hpaid hcounts => exact serve_gone hpaid hcounts

end Lap

end Loyalty
