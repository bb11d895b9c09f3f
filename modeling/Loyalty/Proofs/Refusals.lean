import Loyalty.Proofs.Recording

/-!
# Refusals

A call that is refused leaves the store as it was. Nearly all operations owe that to their order:
what may be refused is asked first, and the one request with an effect comes last. Only a call that
counts an action goes on after an effect. There a refusal can come of the payment alone, because in
a sequence of calls every row has its achievement and holds no more than its total; the row is left
full then.
-/

namespace Loyalty

open Memory

def Untouched (past : List Exchange) : Prop := past.all (fun x => !x.isEffective) = true

def RefusesFirst {ε α : Type} (past : List Exchange) : Except ε α → Prop
  | .ok _ => True
  | .error _ => Untouched past

abbrev AsksFirst (past : List Exchange) (_ : Request) : Prop := Untouched past

theorem RefusesFirst.relabel {ε δ α β : Type} {p : Script ε α} {past : List Exchange}
    (h : p.Keeps AsksFirst RefusesFirst past) (onError : ε → δ) (onValue : α → β) :
    (p.relabel onError onValue).Keeps AsksFirst RefusesFirst past := by
  rw [Script.keeps_relabel]
  apply h.mono fun _ _ hasks => hasks
  rintro past (e | a) hends <;> exact hends

namespace Achievements

theorem refuses_create (input : NewAchievement) :
    (create input).Keeps AsksFirst RefusesFirst [] := by
  rw [create]
  split
  · rfl
  · refine ⟨rfl, ?_⟩
    rintro (e | achievement) _
    · rfl
    · trivial

theorem refuses_createCompact (form : CompactAchievement) :
    (createCompact form).Keeps AsksFirst RefusesFirst [] := by
  rw [createCompact]
  split
  · rfl
  · exact refuses_create _

theorem refuses_complete (row : Progress) : (complete row).Keeps AsksFirst RefusesFirst [] := by
  refine Script.Keeps.require (fun _ => ⟨rfl, ?_⟩) fun _ => rfl
  rintro (e | _ | achievement) _
  · rfl
  · rfl
  · refine ⟨rfl, ?_⟩
    rintro (e | _ | _) _
    · rfl
    · rfl
    · trivial

end Achievements

namespace Coupons

theorem refuses_redeem (curve : LevelCurve) (today : Date) (userId : UserId) (couponId : CouponId) :
    (redeem curve today userId couponId).Keeps AsksFirst RefusesFirst [] := by
  refine ⟨rfl, ?_⟩
  rintro (e | _ | coupon) _
  · rfl
  · rfl
  · refine Script.Keeps.require (fun _ => ⟨rfl, ?_⟩) fun _ => rfl
    rintro (e | found) _
    · rfl
    · refine Script.Keeps.require (fun _ => ?_) fun _ => rfl
      split
      · trivial
      · refine Script.Keeps.require (fun _ => ⟨rfl, ?_⟩) fun _ => rfl
        rintro (e | _ | rest) _
        · rfl
        · rfl
        · trivial

end Coupons

namespace Operation

def countsActions : Operation → Bool
  | .advance _ => true
  | .record .. => true
  | _ => false

theorem refuses_script (op : Operation) (hop : op.countsActions = false) :
    op.script.Keeps AsksFirst RefusesFirst [] := by
  cases op with
  | advance row => cases hop
  | record today userId achievementId => cases hop
  | register input =>
    rw [script, Script.keeps_relabel]
    refine ⟨rfl, ?_⟩
    rintro (e | holder) _
    · rfl
    · dsimp only [Script.bind]
      split
      · rfl
      · refine ⟨rfl, ?_⟩
        rintro (e | user) _
        · rfl
        · trivial
  | createCoupon form =>
    rw [script, Coupons.create]
    split
    · rfl
    · refine ⟨rfl, ?_⟩
      rintro (e | coupon) _
      · rfl
      · trivial
  | redeem curve today userId couponId =>
    exact RefusesFirst.relabel (Coupons.refuses_redeem curve today userId couponId) _ _
  | createAchievement input => exact RefusesFirst.relabel (Achievements.refuses_create input) _ _
  | createCompactAchievement form =>
    exact RefusesFirst.relabel (Achievements.refuses_createCompact form) _ _
  | complete row => exact RefusesFirst.relabel (Achievements.refuses_complete row) _ _
  | deleteAchievement _ | setAccountType _ _ | softDeleteCoupon _ | getUser _ | getProfile _
  | getDisplayName _ | getCoupon _ | getCouponDetails _ _ | restaurantIdOfCoupon _
  | getAchievement _ | getReward _ | findProgress _ _ =>
    refine ⟨rfl, ?_⟩
    rintro (e | _ | a) _
    · rfl
    · rfl
    · trivial
  | createRestaurant _ | authenticate _ _ | listCoupons _ | listValidCoupons _ _ | listBalances _
  | listAchievements _ | listActiveAchievements _ _ | listUnstarted _ _ | listProgress _
  | findBalance _ _ | findRestaurant _ | credit _ _ _ _ | debit _ _ _ =>
    refine ⟨rfl, ?_⟩
    rintro (e | a) _
    · rfl
    · trivial
  | restaurantOfCoupon _ =>
    refine ⟨rfl, ?_⟩
    rintro (e | _ | ⟨coupon, _ | restaurant⟩) _
    · rfl
    · rfl
    · rfl
    · trivial

end Operation

namespace Memory

namespace Change

variable {s s' : Memory} {r : Request} {answer : Except StoreError r.Answer}

theorem eq_of_isEffective_eq_false (h : s.Change ⟨r, answer⟩ s')
    (heffect : Exchange.isEffective ⟨r, answer⟩ = false) : s' = s := by
  cases h with
  | nothing => rfl
  | _ => cases heffect

theorem achievement_there (h : s.Change ⟨r, answer⟩ s') {id : AchievementId}
    (hthere : (s.achievements.find? id).isSome) :
    (s'.achievements.find? id).isSome ∨
      r.withdraws? = some id ∧ ∀ userId : UserId, s'.progress.find? (userId, id) = none := by
  cases h with
  | @createAchievement input created hcreated =>
    left
    by_cases hid : Keyed.key created = id
    · rw [Table.find?_put_of_eq hid]
      rfl
    · rwa [Table.find?_put_of_ne hid]
  | @deleteAchievement gone _ _ =>
    by_cases hid : gone = id
    · subst hid
      exact Or.inr ⟨rfl, fun userId => Progress.find?_without s.progress userId gone⟩
    · left
      rwa [Table.find?_erase_of_ne hid]
  | _ => exact Or.inl hthere

end Change

/-- An operation that counts nothing leaves every store as it was where it is refused. -/
theorem call_of_refused {op : Operation} (hop : op.countsActions = false) {s : Memory} {e : Refusal}
    (h : (op.call s).answer = .error e) : (op.call s).after = s := by
  have hrun := (op.refuses_script hop).run (s := s) (P := fun past s' => Untouched past → s' = s)
    (fun _ => rfl) ?_
  · obtain ⟨past, hafter, hends⟩ := hrun
    apply hafter
    change RefusesFirst past (op.call s).answer at hends
    rwa [h] at hends
  · intro past s₁ r hs₁ hpast hafter
    have hchange := change_handle s₁ r
    rw [Untouched, List.all_cons, Bool.and_eq_true, Bool.not_eq_true'] at hafter
    rw [hchange.eq_of_isEffective_eq_false hafter.1, hs₁ hpast]

/-- Every row has its achievement, and counts up to its total. -/
structure Rooted (s : Memory) : Prop where
  targets : ∀ (id : AchievementId) (a : Achievement),
    s.achievements.find? id = some a → 1 ≤ a.target.toInt
  rows : ∀ (userId : UserId) (id : AchievementId) (row : Progress),
    s.progress.find? (userId, id) = some row →
      row.progress ≤ row.total ∧ (s.achievements.find? id).isSome

theorem rooted_empty : empty.Rooted where
  targets _ _ hfound := nomatch hfound
  rows _ _ _ hfound := nomatch hfound

/-- What was shown has a target, and is still there unless the call deletes achievements. -/
structure Recalls (s : Memory) (op : Operation) (past : List Exchange) : Prop where
  targets : ∀ (id : AchievementId) (a : Achievement),
    (⟨.findAchievement id, .ok (some a)⟩ : Exchange) ∈ past → 1 ≤ a.target.toInt
  stored : ∀ (id : AchievementId) (a : Achievement),
    (⟨.findAchievement id, .ok (some a)⟩ : Exchange) ∈ past → op.withdraws? = none →
      (s.achievements.find? id).isSome

end Memory

def Request.Rooting (s : Memory) : Request → Prop
  | .createAchievement input => input.report.verdict = .ok ()
  | .createProgress id _ total => 1 ≤ total.toInt ∧ (s.achievements.find? id).isSome
  | _ => True

namespace Memory

variable {s s' : Memory} {r : Request} {answer : Except StoreError r.Answer}

theorem Rooted.target_step (h : s.Rooted) (hreason : r.Rooting s)
    (hchange : s.Change ⟨r, answer⟩ s') {id : AchievementId} {a : Achievement}
    (hfound : s'.achievements.find? id = some a) : 1 ≤ a.target.toInt := by
  rcases hchange.achievement hfound with hbefore | hoffered
  · exact h.targets id a hbefore
  · obtain ⟨-, -, input, hx, -, -, htarget⟩ := hchange.offered hoffered
    cases hx
    rw [htarget]
    exact (NewAchievement.bounds_of_verdict hreason).2.2

theorem Rooted.row_step (h : s.Rooted) (hreason : r.Rooting s) (hchange : s.Change ⟨r, answer⟩ s')
    {userId : UserId} {id : AchievementId} {row : Progress}
    (hfound : s'.progress.find? (userId, id) = some row) :
    row.progress ≤ row.total ∧ (s.achievements.find? id).isSome := by
  have hstep := hchange.row userId id
  rw [hfound] at hstep
  generalize hbefore : s.progress.find? (userId, id) = before at hstep
  generalize hafter : some row = after at hstep
  cases hstep with
  | @counted earlier hopen hx =>
    cases hafter
    refine ⟨?_, (h.rows userId id earlier hbefore).2⟩
    rw [Int32.le_iff_toInt_le, Progress.toInt_counted hopen]
    exact Int32.lt_iff_toInt_lt.1 hopen
  | @started total hx =>
    cases hafter
    cases hx
    exact ⟨Int32.le_iff_toInt_le.2 (Int.le_trans (Int.zero_le_ofNat 1) hreason.1), hreason.2⟩
  | kept =>
    cases hafter
    exact h.rows userId id row hbefore
  | paid => cases hafter
  | deleted => cases hafter

theorem Rooted.step (h : s.Rooted) (hreason : r.Rooting s) (hchange : s.Change ⟨r, answer⟩ s') :
    s'.Rooted := by
  refine ⟨fun id a hfound => h.target_step hreason hchange hfound, ?_⟩
  intro userId id row hfound
  obtain ⟨hle, hthere⟩ := h.row_step hreason hchange hfound
  refine ⟨hle, (hchange.achievement_there hthere).resolve_right ?_⟩
  rintro ⟨-, hgone⟩
  rw [hgone] at hfound
  cases hfound

theorem stored_or_shown {past : List Exchange} {id : AchievementId} {a : Achievement}
    (h : (⟨.findAchievement id, .ok (some a)⟩ : Exchange) ∈ ⟨r, (handle r s).1⟩ :: past) :
    s.achievements.find? id = some a ∨
      (⟨.findAchievement id, .ok (some a)⟩ : Exchange) ∈ past := by
  rcases List.mem_cons.1 h with hnow | hbefore
  · left
    generalize hanswer : (handle r s).1 = answer at hnow
    cases hnow
    exact Except.ok.inj hanswer
  · exact Or.inr hbefore

theorem Recalls.step {op : Operation} {past : List Exchange} (h : s.Recalls op past)
    (hrooted : s.Rooted) (hkeeps : op.withdraws? = none → r.withdraws? = none) :
    (handle r s).2.Recalls op (⟨r, (handle r s).1⟩ :: past) := by
  refine ⟨?_, ?_⟩
  · intro id a hshown
    rcases stored_or_shown hshown with hfound | hshown
    · exact hrooted.targets id a hfound
    · exact h.targets id a hshown
  · intro id a hshown hop
    have hthere : (s.achievements.find? id).isSome := by
      rcases stored_or_shown hshown with hfound | hshown
      · rw [hfound]
        rfl
      · exact h.stored id a hshown hop
    apply ((change_handle s r).achievement_there hthere).resolve_right
    rintro ⟨hgone, -⟩
    rw [hkeeps hop] at hgone
    cases hgone

/-- A call keeps every row with its achievement. An operation that starts a row deletes nothing, so
the achievement that it was shown is still there. -/
theorem Rooted.call {s : Memory} (h : s.Rooted) (op : Operation) : (op.call s).after.Rooted := by
  have hrun := (op.keeps_script.and op.keeps_within).run (s := s)
    (P := fun past s' => s'.Rooted ∧ s'.Recalls op past)
    ⟨h, fun _ _ hshown => absurd hshown List.not_mem_nil,
      fun _ _ hshown => absurd hshown List.not_mem_nil⟩ ?_
  · obtain ⟨_, ⟨hafter, -⟩, -⟩ := hrun
    exact hafter
  · rintro past s₁ r ⟨hrooted, hrecalls⟩ ⟨⟨-, hjust⟩, hkey, hdeletes, -⟩
    have hkeeps : op.withdraws? = none → r.withdraws? = none := by
      intro hop
      rcases hdeletes with hdeletes | hdeletes
      · exact hdeletes
      · exact hdeletes.trans hop
    refine ⟨hrooted.step ?_ (change_handle s₁ r), hrecalls.step hrooted hkeeps⟩
    cases r with
    | createAchievement input =>
      rcases hjust with ⟨-, hmoves⟩ | hjust
      · cases hmoves
      · exact hjust
    | createProgress id userId total =>
      rcases hjust with ⟨-, hmoves⟩ | ⟨a, hshown, rfl⟩
      · cases hmoves
      · have hop : op.withdraws? = none := by
          apply Operation.withdraws?_of_rowKey?
          rw [← hkey.resolve_left nofun]
          exact nofun
        exact ⟨hrecalls.targets id a hshown, hrecalls.stored id a hshown hop⟩
    | _ => trivial

theorem Rooted.serve {s : Memory} (h : s.Rooted) (ops : List Operation) : (serve ops s).Rooted :=
  serve_invariant (fun op _ hs => hs.call op) ops h

theorem Rooted.rowOf_le {s : Memory} (h : s.Rooted) (userId : UserId) {a : Achievement}
    (hstored : s.achievements.find? a.id = some a) :
    (s.rowOf userId a).progress ≤ (s.rowOf userId a).total := by
  cases hfound : s.progress.find? (userId, a.id) with
  | none =>
    rw [Memory.rowOf, hfound]
    exact Int32.le_iff_toInt_le.2 (Int.le_trans (Int.zero_le_ofNat 1) (h.targets a.id a hstored))
  | some row =>
    rw [rowOf_of_find? hfound]
    exact (h.rows userId a.id row hfound).1

end Memory

namespace Achievements

variable {s : Memory}

/-- Of a row that is given, an action is counted on the one that is stored for the pair. -/
theorem advance_congr {row row' : Progress} (h : Keyed.key row = Keyed.key row') :
    advance row = advance row' := by
  obtain ⟨huser, hid⟩ := Prod.mk.inj h
  rw [advance, advance, huser, hid]

theorem run_advance_absent {row : Progress}
    (h : s.progress.find? (row.userId, row.achievementId) = none) :
    (advance row).run handle s =
      (.error (.progressNotFound row.achievementId row.userId), s) := by
  rw [advance, Script.bind_eq, Script.run_bind, run_count_absent h]

theorem run_get_absent {id : AchievementId} (h : s.achievements.find? id = none) :
    (get id).run handle s = (.error (.notFound id), s) := by
  have hanswer : handle (.findAchievement id) s = (.ok none, s) := by
    rw [← h]
    rfl
  exact Script.run_ask_bind hanswer

theorem run_record_absent {today : Date} {userId : UserId} {id : AchievementId}
    (h : s.achievements.find? id = none) :
    (record today userId id).run handle s = (.error (.notFound id), s) := by
  rw [record, Script.bind_eq, Script.run_bind, run_get_absent h]

theorem run_record_inactive {today : Date} {userId : UserId} {a : Achievement}
    (hstored : s.achievements.find? a.id = some a)
    (hinactive : a.requirement.statusOn today ≠ .active) :
    (record today userId a.id).run handle s = (.error (.inactive a.id), s) := by
  have hclosed : ¬ (a.requirement.statusOn today == .active) = true := by simpa using hinactive
  rw [record, Script.bind_eq, Script.run_bind, run_get_ok hstored]
  dsimp only
  rw [Script.run_require, if_neg hclosed]

end Achievements

namespace Operation

variable {s : Memory} {userId : UserId} {a : Achievement} {op : Operation}

def CountsOn (s : Memory) (userId : UserId) (a : Achievement) : Operation → Prop
  | .advance row =>
    (row.userId, row.achievementId) = (userId, a.id) ∧ (s.progress.find? (userId, a.id)).isSome
  | .record today visitor id =>
    (visitor, id) = (userId, a.id) ∧ a.requirement.statusOn today = .active
  | _ => False

/-- The operation fills a row, or finds it full, of which the reward overflows the balance. -/
structure Overpays (s : Memory) (userId : UserId) (a : Achievement) (op : Operation) : Prop where
  counts : op.CountsOn s userId a
  stored : s.achievements.find? a.id = some a
  full : (s.rowOf userId a).next.isComplete = true
  overflows : credited? (s.balanceOf userId a.restaurantId) a.points a.experience = none

theorem run_of_countsOn (hcounts : op.CountsOn s userId a)
    (hstored : s.achievements.find? a.id = some a) :
    op.script.run handle s =
      (Script.relabelResult .achievement .outcome
          ((Achievements.advance (s.rowOf userId a)).run handle
            (s.withRow (s.rowOf userId a))).1,
        ((Achievements.advance (s.rowOf userId a)).run handle
          (s.withRow (s.rowOf userId a))).2) := by
  unfold CountsOn at hcounts
  split at hcounts
  · rename_i row
    obtain ⟨hkey, hthere⟩ := hcounts
    obtain ⟨stored, hfound⟩ := Option.isSome_iff_exists.1 hthere
    have hsame : Keyed.key row = Keyed.key stored :=
      hkey.trans (Table.find?_eq_some_iff.1 hfound).2.symm
    rw [script, Script.run_relabel, Achievements.advance_congr hsame, rowOf_of_find? hfound,
      withRow_eq_self (by rw [(Table.find?_eq_some_iff.1 hfound).2, hfound])]
  · obtain ⟨hkey, hactive⟩ := hcounts
    cases hkey
    rw [script, Script.run_relabel, Achievements.run_record_rowOf hstored hactive]
  · exact hcounts.elim

/-- A payment that overflows is refused, and leaves the row full. -/
theorem Overpays.call (h : op.Overpays s userId a) (hrooted : s.Rooted) :
    (op.call s).answer = .error (.achievement (.store .balanceOutOfRange)) ∧
      (op.call s).after =
        s.withRow { s.rowOf userId a with progress := (s.rowOf userId a).total } := by
  have hle := hrooted.rowOf_le userId h.stored
  rw [Operation.call, run_of_countsOn h.counts h.stored,
    Achievements.run_advance_rowOf h.stored hle, if_pos h.full, h.overflows,
    ← Progress.next_of_isComplete h.full hle]
  exact ⟨rfl, rfl⟩

theorem answer_of_countsOn (hcounts : op.CountsOn s userId a)
    (hstored : s.achievements.find? a.id = some a) (hrooted : s.Rooted)
    (hpays : ¬ op.Overpays s userId a) :
    ∃ outcome, (op.call s).answer = .ok (.outcome outcome) := by
  have hle := hrooted.rowOf_le userId hstored
  rw [Operation.call, run_of_countsOn hcounts hstored, Achievements.run_advance_rowOf hstored hle]
  by_cases hfull : (s.rowOf userId a).next.isComplete = true
  · cases hcredit : credited? (s.balanceOf userId a.restaurantId) a.points a.experience with
    | none => exact absurd ⟨hcounts, hstored, hfull, hcredit⟩ hpays
    | some b =>
      rw [if_pos hfull]
      exact ⟨_, rfl⟩
  · rw [if_neg hfull]
    exact ⟨_, rfl⟩

theorem call_of_not_countsOn (hop : op.countsActions = true) (hrooted : s.Rooted)
    (h : ∀ (userId : UserId) (a : Achievement), s.achievements.find? a.id = some a →
      ¬ op.CountsOn s userId a) : (op.call s).after = s := by
  cases op with
  | advance row =>
    cases hfound : s.progress.find? (row.userId, row.achievementId) with
    | none => rw [call, script, Script.run_relabel, Achievements.run_advance_absent hfound]
    | some stored =>
      obtain ⟨a, ha⟩ := Option.isSome_iff_exists.1 (hrooted.rows _ _ stored hfound).2
      have hid : a.id = row.achievementId := (Table.find?_eq_some_iff.1 ha).2
      rw [← hid] at ha hfound
      refine absurd ?_ (h row.userId a ha)
      rw [CountsOn, hfound, hid]
      exact ⟨rfl, rfl⟩
  | record today userId id =>
    cases hstored : s.achievements.find? id with
    | none => rw [call, script, Script.run_relabel, Achievements.run_record_absent hstored]
    | some a =>
      obtain rfl : a.id = id := (Table.find?_eq_some_iff.1 hstored).2
      have hinactive : a.requirement.statusOn today ≠ .active :=
        fun hactive => h userId a hstored ⟨rfl, hactive⟩
      rw [call, script, Script.run_relabel, Achievements.run_record_inactive hstored hinactive]
  | _ => cases hop

end Operation

namespace Memory

/-- From any store that calls one after the other have come to: a call that counts an action of
which the payment overflows is refused as such, pays nothing, and leaves just that row full. Every
other call that is refused leaves the store as it was. -/
theorem refused_call (ops : List Operation) (op : Operation) :
    let s := serve ops empty
    let c := op.call s
    (∀ (userId : UserId) (a : Achievement), op.Overpays s userId a →
      c.answer = .error (.achievement (.store .balanceOutOfRange)) ∧
        c.after = s.withRow { s.rowOf userId a with progress := (s.rowOf userId a).total }) ∧
    ((¬ ∃ userId a, op.Overpays s userId a) → ∀ e, c.answer = .error e → c.after = s) := by
  have hrooted : (serve ops empty).Rooted := rooted_empty.serve ops
  dsimp only
  generalize serve ops empty = s at *
  refine ⟨fun userId a h => h.call hrooted, ?_⟩
  intro hpays e herror
  cases hop : op.countsActions with
  | false => exact call_of_refused hop herror
  | true =>
    apply Operation.call_of_not_countsOn hop hrooted
    intro userId a hstored hcounts
    obtain ⟨outcome, hanswer⟩ := Operation.answer_of_countsOn hcounts hstored hrooted
      fun h => hpays ⟨userId, a, h⟩
    rw [herror] at hanswer
    cases hanswer

def hugeReward : Achievement := ⟨⟨1⟩, ⟨2⟩, "Welcome", 5, 2147483647, ⟨.visit 1, .indefinite⟩⟩

def paidVisit : List Operation :=
  [.createAchievement ⟨⟨2⟩, "Welcome", 5, 2147483647, ⟨.visit 1, .indefinite⟩⟩,
    .record .newYear ⟨7⟩ ⟨1⟩]

theorem paidVisit_overflows :
    ((Operation.record .newYear ⟨7⟩ ⟨1⟩).call (serve paidVisit empty)).answer =
        .error (.achievement (.store .balanceOutOfRange)) ∧
      ((Operation.record .newYear ⟨7⟩ ⟨1⟩).call (serve paidVisit empty)).after =
        (serve paidVisit empty).withRow ⟨⟨7⟩, ⟨1⟩, 1, 1⟩ := by
  obtain ⟨hover, -⟩ := refused_call paidVisit (.record .newYear ⟨7⟩ ⟨1⟩)
  exact hover ⟨7⟩ hugeReward ⟨⟨rfl, rfl⟩, by decide, by decide, by decide⟩

end Memory

end Loyalty
