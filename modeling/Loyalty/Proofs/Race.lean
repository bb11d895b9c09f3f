import Loyalty.Proofs.Stages
import Loyalty.Proofs.TableSteps
import Loyalty.Proofs.World

/-!
# Racing for a reward

Any number of callers advance the same row, each in its own steps, and the steps of all fall in any
order. Other things may go on in the store as long as they leave the row, its achievement and the
balance alone. Every caller is then found in one of the stages of a race, and the numbers at the end
are the same for every order.
-/

namespace Loyalty

namespace Progress

/-- The actions that are missing. -/
def left (row : Progress) : Nat := (row.total.toInt - row.progress.toInt).toNat

def after (row : Progress) (n : Nat) : Progress :=
  { row with progress := Int32.ofInt (row.progress.toInt + n) }

variable {row : Progress} {n : Nat}

theorem toInt_after (hopen : row.progress < row.total) (hn : n ≤ row.left) :
    (row.after n).progress.toInt = row.progress.toInt + n := by
  have hprogress := Amount.bounds row.progress
  have htotal := Amount.bounds row.total
  rw [Int32.lt_iff_toInt_lt] at hopen
  unfold left at hn
  exact Int32.toInt_ofInt_of_le (by omega) (by omega)

theorem after_zero (row : Progress) : row.after 0 = row := by
  rw [after, Int.natCast_zero, Int.add_zero, Int32.ofInt_toInt]

theorem counted_after (row : Progress) (n : Nat) : (row.after n).counted = row.after (n + 1) := by
  have hsum : row.progress.toInt + ↑(n + 1) = row.progress.toInt + n + 1 := by omega
  rw [after, after, hsum, Int32.ofInt_add _ 1]
  rfl

theorem after_lt_iff (hopen : row.progress < row.total) (hn : n ≤ row.left) :
    (row.after n).progress < (row.after n).total ↔ n < row.left := by
  have htotal := Amount.bounds row.total
  rw [Int32.lt_iff_toInt_lt, toInt_after hopen hn]
  rw [Int32.lt_iff_toInt_lt] at hopen
  change row.progress.toInt + n < row.total.toInt ↔ _
  unfold left
  omega

theorem after_eq_iff (hopen : row.progress < row.total) (hn : n ≤ row.left) :
    (row.after n).progress = (row.after n).total ↔ n = row.left := by
  rw [← Int32.toInt_inj, toInt_after hopen hn]
  rw [Int32.lt_iff_toInt_lt] at hopen
  change row.progress.toInt + n = row.total.toInt ↔ _
  unfold left
  omega

theorem isComplete_after (hopen : row.progress < row.total) (hn : n ≤ row.left) :
    (row.after n).isComplete = decide (n = row.left) := by
  rw [isComplete, decide_eq_decide, Int32.le_iff_toInt_le, toInt_after hopen hn]
  rw [Int32.lt_iff_toInt_lt] at hopen
  change row.total.toInt ≤ row.progress.toInt + n ↔ _
  unfold left at hn ⊢
  omega

end Progress

namespace Achievements

def exchange (row : Progress) (reward : Reward) : Script AchievementError Reward := do
  let paid ← Script.ask .store (.complete row reward)
  Script.require paid (.alreadyCompleted row.achievementId row.userId)
  pure reward

def settle (userId : UserId) (achievementId : AchievementId) (row : Progress) :
    Script AchievementError Outcome :=
  if row.isComplete then do
    let reward ← complete row
    pure (.completed userId achievementId reward)
  else pure (.advanced row)

end Achievements

def Stage.script (row : Progress) (achievement : Achievement) :
    Stage → Script AchievementError Outcome
  | .fresh => Achievements.advance row
  | .missed =>
    (do
      let found ← Achievements.findProgress row.achievementId row.userId
      Script.require found.isComplete (.progressNotFound row.achievementId row.userId)
      pure found) >>= Achievements.settle row.userId row.achievementId
  | .full =>
    (Achievements.reward row.achievementId >>= Achievements.exchange (row.after row.left)) >>=
      fun reward => pure (.completed row.userId row.achievementId reward)
  | .ready =>
    Achievements.exchange (row.after row.left) achievement.reward >>=
      fun reward => pure (.completed row.userId row.achievementId reward)
  | .advanced count => .done (.advanced (row.after count))
  | .paid => .done (.completed row.userId row.achievementId achievement.reward)
  | .absent => .fail (.progressNotFound row.achievementId row.userId)
  | .late => .fail (.alreadyCompleted row.achievementId row.userId)

namespace Memory

/-- The store of a race. The balance is credited once the row is gone. -/
structure Stands (row : Progress) (achievement : Achievement) (before : Option Balance)
    (credited : Balance) (s : Memory) (counted : Option Nat) : Prop where
  found : s.progress.find? (row.userId, row.achievementId) = counted.map row.after
  offered : s.achievements.find? row.achievementId = some achievement
  balance : s.balances.find? (row.userId, achievement.restaurantId) =
    if counted.isSome then before else some credited
  inRange : ∀ n, counted = some n → n ≤ row.left

namespace Stands

variable {row : Progress} {achievement : Achievement} {before : Option Balance}
  {credited : Balance} {s : Memory} {counted : Option Nat} {n : Nat}

theorem handle_increment (h : s.Stands row achievement before credited (some n))
    (hopen : row.progress < row.total) (hn : n < row.left) :
    (handle (.increment row.achievementId row.userId) s).1 = .ok (some (row.after (n + 1))) ∧
      (handle (.increment row.achievementId row.userId) s).2.Stands row achievement before credited
        (some (n + 1)) := by
  have hroom := (Progress.after_lt_iff hopen (h.inRange n rfl)).2 hn
  have hkey : Keyed.key (row.after (n + 1)) = (row.userId, row.achievementId) := rfl
  have hanswer : handle (.increment row.achievementId row.userId) s =
      (.ok (some (row.after (n + 1))),
        { s with progress := s.progress.put (row.after (n + 1)) }) := by
    rw [handle_increment_of_open h.found hroom, Progress.counted_after]
  rw [hanswer]
  refine ⟨rfl, ?_, h.offered, h.balance, ?_⟩
  · exact Table.find?_put_of_eq hkey
  · rintro m ⟨⟩
    omega

theorem handle_increment_of_full (h : s.Stands row achievement before credited counted)
    (hopen : row.progress < row.total) (hfull : ∀ n, counted = some n → ¬ n < row.left) :
    handle (.increment row.achievementId row.userId) s = (.ok none, s) := by
  cases counted with
  | none => simp only [handle, increment, h.found, Option.map_none, answered]
  | some n =>
    have hroom := mt (Progress.after_lt_iff hopen (h.inRange n rfl)).1 (hfull n rfl)
    simp only [handle, increment, h.found, Option.map_some, if_neg hroom, answered]

theorem handle_complete (h : s.Stands row achievement before credited (some row.left))
    (hopen : row.progress < row.total)
    (hcredit : credited? (before.getD (.empty row.userId achievement.restaurantId))
      achievement.points achievement.experience = some credited) :
    (handle (.complete (row.after row.left) achievement.reward) s).1 = .ok true ∧
      (handle (.complete (row.after row.left) achievement.reward) s).2.Stands row achievement before
        credited none := by
  have hfull := (Progress.after_eq_iff hopen (Nat.le_refl row.left)).2 rfl
  have hbalance : s.balanceOf row.userId achievement.restaurantId =
      before.getD (.empty row.userId achievement.restaurantId) := by
    rw [balanceOf, h.balance]
    rfl
  have hkey : Keyed.key credited = (row.userId, achievement.restaurantId) := by
    rw [key_of_credited? hcredit, ← hbalance]
    exact key_balanceOf s row.userId achievement.restaurantId
  have hanswer : handle (.complete (row.after row.left) achievement.reward) s =
      (.ok true,
        { s with
          progress := s.progress.erase (row.userId, row.achievementId),
          balances := s.balances.put credited }) := by
    have hfound : s.progress.find?
        ((row.after row.left).userId, (row.after row.left).achievementId) =
          some (row.after row.left) := h.found
    rw [handle_complete_of_full achievement.reward hfound hfull]
    simp only [Achievement.reward, Progress.after, hbalance, hcredit]
  rw [hanswer]
  refine ⟨rfl, ?_, h.offered, ?_, ?_⟩
  · exact Table.find?_erase_self s.progress _
  · exact Table.find?_put_of_eq hkey
  · rintro m ⟨⟩

theorem handle_complete_of_open (h : s.Stands row achievement before credited counted)
    (hopen : row.progress < row.total) (hother : ∀ n, counted = some n → n ≠ row.left) :
    handle (.complete (row.after row.left) achievement.reward) s = (.ok false, s) := by
  apply handle_complete_of_unfilled
  intro stored hstored
  obtain ⟨n, rfl, rfl⟩ := Option.map_eq_some_iff.1 (h.found.symm.trans hstored)
  exact mt (Progress.after_eq_iff hopen (h.inRange n rfl)).1 (hother n rfl)

end Stands

end Memory

namespace Stage

variable {row : Progress} {achievement : Achievement} {before : Option Balance}
  {credited : Balance} {s : Memory} {counted : Option Nat}

/-- The rest of a caller after it counted an action. -/
theorem settle_after (hopen : row.progress < row.total) {n : Nat} (hn : n ≤ row.left) :
    Achievements.settle row.userId row.achievementId (row.after n) =
      (if n = row.left then .full else .advanced n : Stage).script row achievement := by
  unfold Achievements.settle
  rw [Progress.isComplete_after hopen hn]
  by_cases hfull : n = row.left
  · have hcomplete : (row.after n).isComplete = true := by
      rw [Progress.isComplete_after hopen hn, decide_eq_true hfull]
    rw [if_pos (decide_eq_true hfull), if_pos hfull, Achievements.complete, hcomplete, hfull]
    rfl
  · rw [if_neg (by simpa using hfull), if_neg hfull]
    rfl

/-- A caller at a stage makes one request, and the answer brings it to its next stage. -/
theorem exists_call (hstands : s.Stands row achievement before credited counted)
    (hopen : row.progress < row.total)
    (hcredit : Memory.credited? (before.getD (.empty row.userId achievement.restaurantId))
      achievement.points achievement.experience = some credited)
    {stage : Stage} (hstage : stage.isOver = false) :
    ∃ r next, stage.script row achievement = .call r next ∧
      next (Memory.handle r s).1 = (stage.serve row.left counted).2.script row achievement ∧
      (Memory.handle r s).2.Stands row achievement before credited
        (stage.serve row.left counted).1 := by
  cases stage with
  | fresh =>
    refine ⟨.increment row.achievementId row.userId, _, rfl, ?_⟩
    by_cases hroom : ∃ n, counted = some n ∧ n < row.left
    · obtain ⟨n, rfl, hn⟩ := hroom
      obtain ⟨hanswer, hafter⟩ := hstands.handle_increment hopen hn
      simp only [serve, if_pos hn]
      rw [hanswer]
      exact ⟨settle_after hopen hn, hafter⟩
    · have hfull : ∀ n, counted = some n → ¬ n < row.left := fun n hn hlt => hroom ⟨n, hn, hlt⟩
      rw [hstands.handle_increment_of_full hopen hfull]
      cases counted with
      | none => exact ⟨rfl, hstands⟩
      | some n =>
        simp only [serve, if_neg (hfull n rfl)]
        exact ⟨rfl, hstands⟩
  | missed =>
    refine ⟨.findProgress row.achievementId row.userId, _, rfl, ?_⟩
    simp only [Memory.handle, hstands.found]
    cases counted with
    | none => exact ⟨rfl, hstands⟩
    | some n =>
      have hn := hstands.inRange n rfl
      have hsettle : _ = (if n = row.left then .full else .advanced n : Stage).script row
        achievement := settle_after hopen hn
      have hcomplete := Progress.isComplete_after hopen hn
      change (Script.require (row.after n).isComplete _ >>= fun _ => pure (row.after n)) >>=
        Achievements.settle row.userId row.achievementId = _ ∧ _
      simp only [serve]
      by_cases hfull : n = row.left
      · rw [if_pos hfull] at hsettle ⊢
        rw [hcomplete, decide_eq_true hfull, ← hsettle]
        exact ⟨rfl, hstands⟩
      · rw [if_neg hfull, hcomplete, decide_eq_false hfull]
        exact ⟨rfl, hstands⟩
  | full =>
    refine ⟨.findAchievement row.achievementId, _, rfl, ?_⟩
    simp only [Memory.handle, hstands.offered]
    cases counted <;> exact ⟨rfl, hstands⟩
  | ready =>
    refine ⟨.complete (row.after row.left) achievement.reward, _, rfl, ?_⟩
    by_cases hfull : counted = some row.left
    · subst hfull
      obtain ⟨hanswer, hafter⟩ := hstands.handle_complete hopen hcredit
      simp only [serve, if_true]
      rw [hanswer]
      exact ⟨rfl, hafter⟩
    · have hother : ∀ n, counted = some n → n ≠ row.left := by
        rintro n rfl rfl
        exact hfull rfl
      rw [hstands.handle_complete_of_open hopen hother]
      cases counted with
      | none => exact ⟨rfl, hstands⟩
      | some n =>
        simp only [serve, if_neg (hother n rfl)]
        exact ⟨rfl, hstands⟩
  | _ => cases hstage

end Stage

structure Memory.Spared (row : Progress) (restaurantId : RestaurantId) (s s' : Memory) : Prop where
  progress : s'.progress.find? (row.userId, row.achievementId) =
    s.progress.find? (row.userId, row.achievementId)
  achievements : s'.achievements.find? row.achievementId = s.achievements.find? row.achievementId
  balances : s'.balances.find? (row.userId, restaurantId) =
    s.balances.find? (row.userId, restaurantId)

theorem Memory.Stands.spared {row : Progress} {achievement : Achievement}
    {before : Option Balance} {credited : Balance} {s s' : Memory} {counted : Option Nat}
    (h : s.Stands row achievement before credited counted)
    (hspared : s.Spared row achievement.restaurantId s') :
    s'.Stands row achievement before credited counted where
  found := hspared.progress.trans h.found
  offered := hspared.achievements.trans h.offered
  balance := hspared.balances.trans h.balance
  inRange := h.inRange

namespace World

/-- What comes of a world when its callers are served in any order, while the store may change in
other ways. -/
inductive Interleaving (others : Memory → Memory → Prop) (w : World) : World → Prop
  | start : Interleaving others w w
  | serve {w' : World} (i : Nat) (h : Interleaving others w w') :
      Interleaving others w (w'.take (.serve i))
  | other {w' : World} {s : Memory} (h : Interleaving others w w') (hs : others w'.store s) :
      Interleaving others w { w' with store := s }

def IsOver (w : World) : Prop := ∀ c ∈ w.callers, c.result?.isSome

def results (w : World) : List (Except Refusal Reply) := w.callers.filterMap Caller.result?

theorem take_serve {w : World} {i : Nat} {op : Operation} {r : Request}
    {next : Except StoreError r.Answer → Script Refusal Reply}
    (h : w.callers[i]? = some ⟨op, .call r next⟩) :
    w.take (.serve i) =
      ⟨(Memory.handle r w.store).2, w.callers.set i ⟨op, next (Memory.handle r w.store).1⟩,
        ⟨i, ⟨r, (Memory.handle r w.store).1⟩⟩ :: w.history⟩ := by
  rw [take, exchange, h]

theorem interleaving_foldl (others : Memory → Memory → Prop) (w : World) (order : List Nat) :
    w.Interleaving others (order.foldl (fun w i => w.take (.serve i)) w) := by
  have hfold : ∀ w', w.Interleaving others w' →
      w.Interleaving others (order.foldl (fun w i => w.take (.serve i)) w') := by
    induction order with
    | nil => exact fun w' h => h
    | cons i order ih => exact fun w' h => ih _ (h.serve i)
  exact hfold w .start

theorem Interleaving.length_callers {others : Memory → Memory → Prop} {w w' : World}
    (h : w.Interleaving others w') : w'.callers.length = w.callers.length := by
  induction h with
  | start => rfl
  | serve i h ih =>
    rw [← ih, take, exchange]
    split
    · exact List.length_set
    · rfl
  | other h hs ih => exact ih

/-- A caller that is not there, or has ended, is not served. -/
theorem take_serve_of_over {w : World} {i : Nat}
    (h : ∀ c, w.callers[i]? = some c → c.result?.isSome) : w.take (.serve i) = w := by
  rw [take, exchange]
  split
  · rename_i op r next hcaller
    exact absurd (h _ hcaller) (by simp [Caller.result?, Script.result?])
  · rfl

/-- The callers of a world stand at stages. A stage tells what a caller still does, and bounds the
calls that it has made. -/
structure Staged {σ : Type} (rest : σ → Script Refusal Reply) (bound : σ → Nat) (w : World)
    (stages : List σ) : Prop where
  rests : w.callers.map Caller.rest = stages.map rest
  calls : ∀ (i : Nat) (stage : σ), stages[i]? = some stage → (w.past i).length ≤ bound stage

namespace Staged

variable {σ : Type} {rest : σ → Script Refusal Reply} {bound : σ → Nat} {w w' : World}
  {stages : List σ}

theorem getElem?_rest (h : w.Staged rest bound stages) (i : Nat) :
    (w.callers[i]?).map Caller.rest = (stages[i]?).map rest := by
  rw [← List.getElem?_map, ← List.getElem?_map, h.rests]

/-- Serving a caller does nothing, or brings it to its next stage. -/
theorem serve (h : w.Staged rest bound stages) (i : Nat) :
    w.take (.serve i) = w ∨
      ∃ stage r next, stages[i]? = some stage ∧ rest stage = .call r next ∧
        (w.take (.serve i)).store = (Memory.handle r w.store).2 ∧
        ∀ stage', next (Memory.handle r w.store).1 = rest stage' → bound stage < bound stage' →
          (w.take (.serve i)).Staged rest bound (stages.set i stage') := by
  have hrest := h.getElem?_rest i
  cases hcaller : w.callers[i]? with
  | none => exact Or.inl (take_serve_of_over fun c hc => by rw [hcaller] at hc; cases hc)
  | some c =>
    obtain ⟨op, p⟩ := c
    rw [hcaller] at hrest
    obtain ⟨stage, hstage, hp⟩ := Option.map_eq_some_iff.1 hrest.symm
    change rest stage = p at hp
    cases p with
    | done reply | fail refusal =>
      left
      apply take_serve_of_over
      intro c hc
      rw [hcaller] at hc
      cases hc
      rfl
    | call r next =>
      rw [take_serve hcaller]
      refine Or.inr ⟨stage, r, next, hstage, hp, rfl, fun stage' hnext hbound => ⟨?_, ?_⟩⟩
      · rw [List.map_set, List.map_set, h.rests, hnext]
      · intro j other hother
        rw [past_cons]
        by_cases hij : i = j
        · subst hij
          have hi : i < stages.length := (List.getElem?_eq_some_iff.1 hstage).1
          rw [List.getElem?_set_self hi] at hother
          cases hother
          rw [if_pos rfl, List.length_cons]
          exact Nat.lt_of_le_of_lt (h.calls i stage hstage) hbound
        · rw [List.getElem?_set_ne hij] at hother
          rw [if_neg hij]
          exact h.calls j other hother

/-- What every served stage keeps, and everything else that goes on, every interleaving keeps. -/
theorem interleaving {P : Memory → List σ → Prop} {others : Memory → Memory → Prop}
    (h : w.Staged rest bound stages) (hP : P w.store stages)
    (hserve : ∀ s stages i stage r next, P s stages → stages[i]? = some stage →
      rest stage = .call r next → ∃ stage', next (Memory.handle r s).1 = rest stage' ∧
        bound stage < bound stage' ∧ P (Memory.handle r s).2 (stages.set i stage'))
    (hothers : ∀ s s' stages, P s stages → others s s' → P s' stages)
    (hw : w.Interleaving others w') :
    ∃ stages, w'.Staged rest bound stages ∧ P w'.store stages := by
  induction hw with
  | start => exact ⟨stages, h, hP⟩
  | @serve w' i hw ih =>
    obtain ⟨stages, ih, hP⟩ := ih
    rcases ih.serve i with hsame | ⟨stage, r, next, hstage, hrest, hstore, hstaged⟩
    · rw [hsame]
      exact ⟨stages, ih, hP⟩
    · obtain ⟨stage', hnext, hbound, hP'⟩ := hserve w'.store stages i stage r next hP hstage hrest
      exact ⟨_, hstaged stage' hnext hbound, hstore ▸ hP'⟩
  | other hw hs ih =>
    obtain ⟨stages, ih, hP⟩ := ih
    exact ⟨stages, ⟨ih.rests, ih.calls⟩, hothers _ _ stages hP hs⟩

theorem gather {ops : List Operation} {s : Memory} {stages : List σ}
    (hstages : ops.map Operation.script = stages.map rest) :
    (World.gather s ops).Staged rest bound stages where
  rests := by
    rw [World.gather, List.map_map, ← hstages]
    rfl
  calls _ _ _ := Nat.zero_le _

/-- A caller that has not ended has made no more calls than its stage may have. -/
theorem calls_lt (h : w.Staged rest bound stages) {limit : Nat}
    (hbound : ∀ stage, (rest stage).result? = none → bound stage < limit) {i : Nat} {c : Caller}
    (hc : w.callers[i]? = some c) (hresult : c.result? = none) : (w.past i).length < limit := by
  have hrest := h.getElem?_rest i
  rw [hc] at hrest
  obtain ⟨stage, hstage, hp⟩ := Option.map_eq_some_iff.1 hrest.symm
  apply Nat.lt_of_le_of_lt (h.calls i stage hstage) (hbound stage _)
  rw [hp]
  exact hresult

theorem length_eq (h : w.Staged rest bound stages) : stages.length = w.callers.length := by
  have hlength := congrArg List.length h.rests
  rw [List.length_map, List.length_map] at hlength
  exact hlength.symm

theorem isSome_of_isOver (h : w.Staged rest bound stages) (hover : w.IsOver) :
    ∀ x ∈ stages, (rest x).result?.isSome := by
  intro x hx
  have hrest : rest x ∈ w.callers.map Caller.rest := by
    rw [h.rests]
    exact List.mem_map_of_mem hx
  obtain ⟨c, hc, hcx⟩ := List.mem_map.1 hrest
  rw [← hcx]
  exact hover c hc

theorem results_eq (h : w.Staged rest bound stages) :
    w.results = stages.filterMap fun x => (rest x).result? := by
  calc w.results = (w.callers.map Caller.rest).filterMap Script.result? := by
        rw [List.filterMap_map]
        rfl
    _ = (stages.map rest).filterMap Script.result? := by rw [h.rests]
    _ = stages.filterMap fun x => (rest x).result? := by
        rw [List.filterMap_map]
        rfl

end Staged

end World

def Stage.rest (row : Progress) (achievement : Achievement) (stage : Stage) :
    Script Refusal Reply :=
  (stage.script row achievement).relabel .achievement .outcome

structure Racing (row : Progress) (achievement : Achievement) (before : Option Balance)
    (credited : Balance) (w : World) (counted : Option Nat) (stages : List Stage) : Prop
    extends w.Staged (Stage.rest row achievement) Stage.calls stages where
  stands : w.store.Stands row achievement before credited counted
  lap : Lap row.left counted stages

namespace Racing

variable {row : Progress} {achievement : Achievement} {before : Option Balance}
  {credited : Balance} {w : World} {counted : Option Nat} {stages : List Stage}

theorem isSome_result? {stage : Stage} :
    (stage.rest row achievement).result?.isSome = stage.isOver := by
  cases stage <;> rfl

/-- A caller that is served in a race comes to its next stage. -/
theorem exists_next {s : Memory} (hstands : s.Stands row achievement before credited counted)
    (hlap : Lap row.left counted stages) (hopen : row.progress < row.total)
    (hcredit : Memory.credited? (before.getD (.empty row.userId achievement.restaurantId))
      achievement.points achievement.experience = some credited) {i : Nat} {stage : Stage}
    {r : Request} {next : Except StoreError r.Answer → Script Refusal Reply}
    (hstage : stages[i]? = some stage) (hcall : stage.rest row achievement = .call r next) :
    ∃ stage', next (Memory.handle r s).1 = stage'.rest row achievement ∧
      stage.calls < stage'.calls ∧
      ∃ counted', (Memory.handle r s).2.Stands row achievement before credited counted' ∧
        Lap row.left counted' (stages.set i stage') := by
  have hover : stage.isOver = false := by
    have hsome : (stage.rest row achievement).result?.isSome = stage.isOver := isSome_result?
    rw [← hsome, hcall]
    rfl
  obtain ⟨r', next', hscript, hnext, hstands'⟩ := Stage.exists_call hstands hopen hcredit hover
  rw [Stage.rest, hscript] at hcall
  cases hcall
  refine ⟨_, ?_, Stage.calls_lt_serve row.left counted hover, _, hstands', hlap.serve hstage⟩
  exact congrArg (Script.relabel Refusal.achievement Reply.outcome) hnext

/-- Every interleaving of a race is a race. -/
theorem interleaving (h : Racing row achievement before credited w counted stages)
    (hopen : row.progress < row.total)
    (hcredit : Memory.credited? (before.getD (.empty row.userId achievement.restaurantId))
      achievement.points achievement.experience = some credited) {w' : World}
    (hw : w.Interleaving (Memory.Spared row achievement.restaurantId) w') :
    ∃ counted' stages', Racing row achievement before credited w' counted' stages' := by
  have hends := h.toStaged.interleaving
    (P := fun s stages => ∃ counted, s.Stands row achievement before credited counted ∧
      Lap row.left counted stages) ⟨counted, h.stands, h.lap⟩ ?_ ?_ hw
  · obtain ⟨stages', hstaged, counted', hstands, hlap⟩ := hends
    exact ⟨counted', stages', hstaged, hstands, hlap⟩
  · rintro s stages i stage r next ⟨counted, hstands, hlap⟩ hstage hcall
    exact exists_next hstands hlap hopen hcredit hstage hcall
  · rintro s s' stages ⟨counted, hstands, hlap⟩ hs
    exact ⟨counted, hstands.spared hs, hlap⟩

theorem gather {s : Memory} {snapshots : List Progress}
    (hsnapshots : ∀ x ∈ snapshots, x.userId = row.userId ∧ x.achievementId = row.achievementId)
    (hrow : s.progress.find? (row.userId, row.achievementId) = some row)
    (hachievement : s.achievements.find? row.achievementId = some achievement)
    (hopen : row.progress < row.total) :
    Racing row achievement (s.balances.find? (row.userId, achievement.restaurantId)) credited
      (World.gather s (snapshots.map .advance)) (some 0) (snapshots.map fun _ => .fresh) where
  toStaged := by
    apply World.Staged.gather
    rw [List.map_map, List.map_map]
    apply List.map_congr_left
    intro x hx
    obtain ⟨huser, hid⟩ := hsnapshots x hx
    obtain ⟨_, _, _, _⟩ := x
    cases huser
    cases hid
    rfl
  stands := by
    refine ⟨?_, hachievement, rfl, ?_⟩
    · rw [Option.map_some, Progress.after_zero]
      exact hrow
    · rintro n ⟨⟩
      exact Nat.zero_le _
  lap := by
    have hleft : 0 < row.left := by
      rw [Int32.lt_iff_toInt_lt] at hopen
      unfold Progress.left
      omega
    refine .running hleft ?_ ?_
    · intro x hx
      obtain ⟨_, _, rfl⟩ := List.mem_map.1 hx
      exact Or.inl rfl
    · have hnone : counts (snapshots.map fun _ => .fresh) = [] := by
        rw [counts, List.filterMap_eq_nil_iff]
        intro x hx
        obtain ⟨_, _, rfl⟩ := List.mem_map.1 hx
        rfl
      rw [hnone]
      exact List.Perm.nil

theorem isOver_stages (h : Racing row achievement before credited w counted stages)
    (hover : w.IsOver) : ∀ x ∈ stages, x.isOver = true := by
  intro x hx
  rw [← isSome_result?]
  exact h.isSome_of_isOver hover x hx

end Racing

def Stage.refusal? (row : Progress) : Stage → Option (Except Refusal Reply)
  | .absent => some (.error (.achievement (.progressNotFound row.achievementId row.userId)))
  | .late => some (.error (.achievement (.alreadyCompleted row.achievementId row.userId)))
  | _ => none

/-- The results at the end of a race, sorted. -/
theorem Stage.results_perm (row : Progress) (achievement : Achievement) {stages : List Stage}
    (hover : ∀ x ∈ stages, x.isOver = true) :
    (stages.filterMap fun x => (x.rest row achievement).result?).Perm
      ((counts stages).map (fun n => .ok (.outcome (.advanced (row.after n)))) ++
        (List.replicate (stages.count .paid)
          (.ok (.outcome (.completed row.userId row.achievementId achievement.reward))) ++
        stages.filterMap (Stage.refusal? row))) := by
  induction stages with
  | nil => exact List.Perm.nil
  | cons x stages ih =>
    have ih := ih fun y hy => hover y (List.mem_cons_of_mem x hy)
    have hx := hover x List.mem_cons_self
    cases x with
    | advanced n => exact ih.cons _
    | paid =>
      rw [List.count_cons_self, List.replicate_succ]
      exact (ih.cons _).trans List.perm_middle.symm
    | absent | late =>
      rw [← List.append_assoc] at ih ⊢
      exact (ih.cons _).trans List.perm_middle.symm
    | _ => cases hx

theorem Stage.length_over (row : Progress) {stages : List Stage}
    (hover : ∀ x ∈ stages, x.isOver = true) :
    stages.length = (counts stages).length + stages.count .paid +
      (stages.filterMap (Stage.refusal? row)).length := by
  induction stages with
  | nil => rfl
  | cons x stages ih =>
    have ih := ih fun y hy => hover y (List.mem_cons_of_mem x hy)
    have hx := hover x List.mem_cons_self
    unfold counts at ih ⊢
    rw [List.length_cons, ih, List.filterMap_cons, List.filterMap_cons, List.count_cons]
    cases x with
    | advanced n | paid | absent | late =>
      simp [Stage.count?, Stage.refusal?]
      omega
    | _ => cases hx

theorem Stage.mem_refusals {row : Progress} {stages : List Stage}
    {x : Except Refusal Reply} (hx : x ∈ stages.filterMap (Stage.refusal? row)) :
    x = .error (.achievement (.progressNotFound row.achievementId row.userId)) ∨
      x = .error (.achievement (.alreadyCompleted row.achievementId row.userId)) := by
  obtain ⟨stage, _, hstage⟩ := List.mem_filterMap.1 hx
  cases stage <;> cases hstage
  · exact Or.inl rfl
  · exact Or.inr rfl

/-- A race ends with a row that has room, or with one that is gone. -/
theorem Racing.ended {row : Progress} {achievement : Achievement} {before : Option Balance}
    {credited : Balance} {w : World} {counted : Option Nat} {stages : List Stage}
    (h : Racing row achievement before credited w counted stages) (hover : w.IsOver) :
    (counted = some stages.length ∧ stages.length < row.left ∧
      w.results.Perm ((steps stages.length).map fun n =>
        .ok (.outcome (.advanced (row.after n))))) ∨
    (counted = none ∧ row.left ≤ stages.length ∧
      w.results.Perm
        ((steps (row.left - 1)).map (fun n => .ok (.outcome (.advanced (row.after n)))) ++
          .ok (.outcome (.completed row.userId row.achievementId achievement.reward)) ::
            stages.filterMap (Stage.refusal? row))) := by
  have hall := h.isOver_stages hover
  have hparts := Stage.length_over row hall
  have hperm := Stage.results_perm row achievement hall
  rw [← h.results_eq] at hperm
  cases h.lap with
  | @running n _ hroom hstages hcounts =>
    have hpaid : stages.count .paid = 0 := by
      apply List.count_eq_zero_of_not_mem
      intro hx
      rcases hstages _ hx with heq | ⟨m, heq⟩ <;> cases heq
    have hrefusals : stages.filterMap (Stage.refusal? row) = [] := by
      rw [List.filterMap_eq_nil_iff]
      intro x hx
      rcases hstages x hx with rfl | ⟨m, rfl⟩ <;> rfl
    have hn : stages.length = n := by
      rw [hparts, hpaid, hrefusals, hcounts.length_eq, length_steps]
      rfl
    rw [hpaid, hrefusals, List.replicate_zero, List.append_nil, List.append_nil] at hperm
    rw [hn]
    exact Or.inl ⟨rfl, hroom, hperm.trans (hcounts.map _)⟩
  | full hheld hstages hcounts =>
    obtain ⟨x, hx, rfl | rfl⟩ := hheld <;> cases hall _ hx
  | gone hpaid hcounts =>
    have hlength := hcounts.length_eq
    rw [length_steps] at hlength
    rw [hpaid] at hperm hparts
    exact Or.inr ⟨rfl, by omega, hperm.trans ((hcounts.map _).append_right _)⟩

namespace World

variable {s : Memory} {row : Progress} {achievement : Achievement} {credited : Balance}
  {snapshots : List Progress} {w : World}

/-- Callers that advance a row are found, after whatever interleaving of their steps, to have made
at most four calls each; and when all have ended, each action was counted once. Too few of them
leave the row with all of their actions. Else the row is gone, one of them was paid for it, and all
that came too late are told so. -/
theorem racing_advances (hrow : s.progress.find? (row.userId, row.achievementId) = some row)
    (hopen : row.progress < row.total)
    (hachievement : s.achievements.find? row.achievementId = some achievement)
    (hcredit : Memory.credited? (s.balanceOf row.userId achievement.restaurantId)
      achievement.points achievement.experience = some credited)
    (hsnapshots : ∀ x ∈ snapshots, x.userId = row.userId ∧ x.achievementId = row.achievementId)
    (hw : (gather s (snapshots.map .advance)).Interleaving
      (Memory.Spared row achievement.restaurantId) w) :
    (∀ i c, w.callers[i]? = some c → c.result? = none → (w.past i).length < 4) ∧
    (∀ n, n ≤ row.left → (row.after n).progress.toInt = row.progress.toInt + n) ∧
    (w.IsOver → snapshots.length < row.left →
      w.results.Perm ((steps snapshots.length).map fun n =>
        .ok (.outcome (.advanced (row.after n)))) ∧
      w.store.progress.find? (row.userId, row.achievementId) =
        some (row.after snapshots.length) ∧
      w.store.balances.find? (row.userId, achievement.restaurantId) =
        s.balances.find? (row.userId, achievement.restaurantId)) ∧
    (w.IsOver → row.left ≤ snapshots.length →
      ∃ refusals, (∀ x ∈ refusals,
          x = .error (.achievement (.progressNotFound row.achievementId row.userId)) ∨
          x = .error (.achievement (.alreadyCompleted row.achievementId row.userId))) ∧
        w.results.Perm
          ((steps (row.left - 1)).map (fun n => .ok (.outcome (.advanced (row.after n)))) ++
            .ok (.outcome (.completed row.userId row.achievementId achievement.reward)) ::
              refusals) ∧
        w.store.progress.find? (row.userId, row.achievementId) = none ∧
        w.store.balances.find? (row.userId, achievement.restaurantId) = some credited ∧
        credited.points.toInt = (s.balanceOf row.userId achievement.restaurantId).points.toInt +
          achievement.points.toInt ∧
        credited.experience.toInt =
          (s.balanceOf row.userId achievement.restaurantId).experience.toInt +
            achievement.experience.toInt) := by
  obtain ⟨counted, stages, hrace⟩ :=
    (Racing.gather hsnapshots hrow hachievement hopen).interleaving hopen hcredit hw
  have hlength : stages.length = snapshots.length := by
    rw [hrace.length_eq, hw.length_callers, gather, List.length_map, List.length_map]
  refine ⟨?_, fun n hn => Progress.toInt_after hopen hn, ?_, ?_⟩
  · intro i c
    apply hrace.calls_lt
    intro stage hresult
    apply Stage.calls_lt_four
    have hsome : (stage.rest row achievement).result?.isSome = stage.isOver :=
      Racing.isSome_result?
    rw [← hsome, hresult, Option.isSome_none]
  · intro hover hfew
    rcases hrace.ended hover with ⟨hcounted, _, hresults⟩ | ⟨_, hmany, _⟩
    · subst hcounted
      rw [hlength] at hresults
      have hfound := hrace.stands.found
      rw [hlength] at hfound
      exact ⟨hresults, hfound, hrace.stands.balance⟩
    · omega
  · intro hover hmany
    rcases hrace.ended hover with ⟨_, hfew, _⟩ | ⟨hcounted, _, hresults⟩
    · omega
    · subst hcounted
      obtain ⟨hpoints, hexperience⟩ := Memory.toInt_of_credited? hcredit
      exact ⟨_, fun x => Stage.mem_refusals, hresults, hrace.stands.found, hrace.stands.balance,
        hpoints, hexperience⟩

def raceRow : Progress := ⟨⟨7⟩, ⟨1⟩, 0, 2⟩

def raceStore : Memory :=
  { Memory.empty with
    achievements := Table.empty.put ⟨⟨1⟩, ⟨1⟩, "Regular", 5, 10, ⟨.visit 2, .indefinite⟩⟩
    progress := Table.empty.put raceRow }

/-- Three callers race for two actions. The second one fills the row, and the third one, which finds
no room, overtakes it and is paid. -/
def overtaking : World :=
  [0, 1, 2, 2, 2, 2, 1, 1].foldl (fun w i => w.take (.serve i))
    (gather raceStore ([raceRow, raceRow, raceRow].map .advance))

theorem overtaking_pays_once :
    ∃ refusals, (∀ x ∈ refusals,
        x = .error (.achievement (.progressNotFound ⟨1⟩ ⟨7⟩)) ∨
        x = .error (.achievement (.alreadyCompleted ⟨1⟩ ⟨7⟩))) ∧
      overtaking.results.Perm
        ([.ok (.outcome (.advanced ⟨⟨7⟩, ⟨1⟩, 1, 2⟩))] ++
          .ok (.outcome (.completed ⟨7⟩ ⟨1⟩ ⟨⟨1⟩, 10, 5⟩)) :: refusals) ∧
      overtaking.store.progress.find? (⟨7⟩, ⟨1⟩) = none := by
  have hover : overtaking.IsOver := by
    unfold IsOver
    decide
  have hrow : raceStore.progress.find? (raceRow.userId, raceRow.achievementId) = some raceRow := rfl
  have hsnapshots : ∀ x ∈ [raceRow, raceRow, raceRow],
      x.userId = raceRow.userId ∧ x.achievementId = raceRow.achievementId := by decide
  obtain ⟨-, -, -, hmany⟩ := racing_advances hrow (by decide) rfl rfl hsnapshots
    (interleaving_foldl _ _ [0, 1, 2, 2, 2, 2, 1, 1])
  obtain ⟨refusals, hrefusals, hresults, hgone, -⟩ := hmany hover (by decide)
  exact ⟨refusals, hrefusals, hresults, hgone⟩

end World

end Loyalty
