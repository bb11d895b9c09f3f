import Loyalty.Proofs.Catalog

/-!
# Withdrawn achievements

An achievement that was deleted is never seen again, and its rows go with it. But the store does not
look for the achievement when a row is started or paid for. So a caller to whom the achievement was
shown in time can still start a row of it, and be paid, after the deletion. Nobody else can.
-/

namespace Loyalty

def Exchange.honoured? : Exchange → Option AchievementId
  | ⟨.createProgress id _ _, .ok _⟩ => some id
  | ⟨.complete row _, .ok true⟩ => some row.achievementId
  | _ => none

theorem Exchange.shown_of_honoured {x : Exchange} {past : List Exchange} {id : AchievementId}
    (h : x.honoured? = some id) (hreason : x.1.movesPoints = true ∨ x.1.Justified past) :
    ∃ a, (⟨.findAchievement id, .ok (some a)⟩ : Exchange) ∈ past := by
  unfold honoured? at h
  split at h
  · cases h
    rcases hreason with hmoves | ⟨a, ha, -⟩
    · cases hmoves
    · exact ⟨a, ha⟩
  · cases h
    rcases hreason with hmoves | ⟨a, ha, -⟩
    · cases hmoves
    · exact ⟨a, ha⟩
  · cases h

/-- What a log tells of an achievement that was deleted before the later exchanges in it. -/
structure Withdrawn (id : AchievementId) (later past : List Exchange) (s : Memory) : Prop where
  known : ∃ a ∈ offersIn past, a.id = id
  gone : s.achievements.find? id = none
  unseen : ∀ a : Achievement, (⟨.findAchievement id, .ok (some a)⟩ : Exchange) ∉ later
  rows : ∀ userId : UserId, s.progress.find? (userId, id) ≠ none →
    ∃ total row, (⟨.createProgress id userId total, .ok row⟩ : Exchange) ∈ later

namespace Withdrawn

variable {id : AchievementId} {later past : List Exchange} {s s' : Memory} {x : Exchange}

theorem of_deletion (hcatalog : Catalog past s)
    (h : s.Change ⟨.deleteAchievement id, .ok true⟩ s') :
    Withdrawn id [] (⟨.deleteAchievement id, .ok true⟩ :: past) s' := by
  cases h with
  | nothing h => cases h
  | @deleteAchievement _ a hfound =>
    refine ⟨⟨a, mem_offersIn_cons.2 (Or.inr (hcatalog.stored id a hfound)),
      (Table.find?_eq_some_iff.1 hfound).2⟩, Table.find?_erase_self _ _,
      fun _ => List.not_mem_nil, ?_⟩
    exact fun userId hrow => absurd (Progress.find?_without s.progress userId id) hrow

theorem step {r : Request} {answer : Except StoreError r.Answer} (h : Withdrawn id later past s)
    (hcatalog : Catalog past s) (hanswer : s.Answers r answer s') (hfits : s.created < 2147483647) :
    Withdrawn id (⟨r, answer⟩ :: later) (⟨r, answer⟩ :: past) s' := by
  have hchange := hanswer.change
  obtain ⟨a, ha, hid⟩ := h.known
  refine ⟨⟨a, mem_offersIn_cons.2 (Or.inr ha), hid⟩, ?_, ?_, ?_⟩
  · rw [Option.eq_none_iff_forall_ne_some]
    intro b hb
    rcases hchange.achievement hb with hbefore | hoffered
    · rw [h.gone] at hbefore
      cases hbefore
    · have hnew : b.id = id := (Table.find?_eq_some_iff.1 hb).2
      have hnext := hcatalog.ne_nextId hfits ha
      rw [hid, ← hnew] at hnext
      exact hnext (hchange.offered hoffered).1
  · intro b hb
    rcases List.mem_cons.1 hb with hnow | hbefore
    · cases hnow
      have hfound := hanswer.achievement
      rw [h.gone] at hfound
      cases hfound
    · exact h.unseen b hbefore
  · intro userId hrow
    have hstep := hchange.row userId id
    generalize hearlier : s.progress.find? (userId, id) = before at hstep
    generalize s'.progress.find? (userId, id) = after at hrow hstep
    have hkept : before ≠ none →
        ∃ total row, (⟨.createProgress id userId total, .ok row⟩ : Exchange) ∈
          (⟨r, answer⟩ :: later : List Exchange) := by
      rintro hbefore
      obtain ⟨total, row, hmem⟩ := h.rows userId (hearlier ▸ hbefore)
      exact ⟨total, row, List.mem_cons_of_mem _ hmem⟩
    cases hstep with
    | counted => exact hkept nofun
    | paid | deleted => exact absurd rfl hrow
    | started hx =>
      rw [hx]
      exact ⟨_, _, List.mem_cons_self⟩
    | kept => exact hkept hrow

end Withdrawn

theorem Logged.withdrawn {direct : Prop} {past later earlier : List Exchange} {s : Memory}
    {id : AchievementId} (h : Logged direct past s) (hfits : s.created < 2147483647)
    (hsplit : past = later ++ ⟨.deleteAchievement id, .ok true⟩ :: earlier) :
    Withdrawn id later past s := by
  induction h generalizing later with
  | empty => exact absurd hsplit (by simp)
  | @answered past s s' r answer h hreason hanswer ih =>
    have hroom : s.created < 2147483647 :=
      Nat.lt_of_le_of_lt hanswer.change.created_le hfits
    cases later with
    | nil =>
      obtain ⟨hx, rfl⟩ := List.cons.inj hsplit
      have hchange := hanswer.change
      rw [hx] at hchange ⊢
      exact .of_deletion (h.catalog hroom) hchange
    | cons x later =>
      obtain ⟨rfl, htail⟩ := List.cons.inj hsplit
      exact (ih hroom htail).step (h.catalog hroom) hanswer hroom

namespace World

def Reasoned (w : World) : Prop :=
  ∀ newer e older, w.history = newer ++ e :: older →
    e.exchange.1.movesPoints = true ∨
      e.exchange.1.Justified ((older.filter fun d => d.caller = e.caller).map Event.exchange)

theorem reasoned_run (turns : List Turn) : Reasoned (run turns) := by
  have hboth : Faithful (fun _ => True) (run turns) ∧ Reasoned (run turns) := by
    apply run_induction (P := fun w => Faithful (fun _ => True) w ∧ Reasoned w)
      ⟨faithful_initial, fun newer e older hsplit => absurd hsplit (by simp [initial])⟩ _ turns
      (fun _ _ => trivial)
    rintro w w' ⟨hfaithful, hreasoned⟩ hstep
    refine ⟨hfaithful.step hstep, ?_⟩
    cases hstep with
    | idle => exact hreasoned
    | start hop => exact hreasoned
    | @exchange i op r next a s hcaller hanswer =>
      intro newer e older hsplit
      cases newer with
      | nil =>
        obtain ⟨rfl, rfl⟩ := List.cons.inj hsplit
        exact (hfaithful.keeps i _ hcaller).1.2.imp_left And.right
      | cons d newer => exact hreasoned newer e older (List.cons.inj hsplit).2
  exact hboth.2

/-- What is done for an achievement after its deletion is done for callers to whom it was shown
before. It is not shown any more, and every row of it that is stored was started since. -/
theorem withdrawal_final (turns : List Turn) (hfits : (run turns).store.created < 2147483647)
    {later earlier : List Event} {d : Nat} {id : AchievementId}
    (hsplit : (run turns).history = later ++ ⟨d, ⟨.deleteAchievement id, .ok true⟩⟩ :: earlier) :
    (∀ e ∈ later, e.exchange.honoured? = some id →
      ∃ a, ⟨e.caller, ⟨.findAchievement id, .ok (some a)⟩⟩ ∈ earlier) ∧
    (∀ e ∈ later, ∀ a, e.exchange ≠ ⟨.findAchievement id, .ok (some a)⟩) ∧
    (run turns).store.achievements.find? id = none ∧
    ∀ userId : UserId, (run turns).store.progress.find? (userId, id) ≠ none →
      ∃ e ∈ later, ∃ total row, e.exchange = ⟨.createProgress id userId total, .ok row⟩ := by
  have hlogged : Logged True (run turns).exchanges (run turns).store :=
    logged_run turns fun _ _ _ => trivial
  have hexchanges : (run turns).exchanges = later.map Event.exchange ++
      ⟨.deleteAchievement id, .ok true⟩ :: earlier.map Event.exchange := by
    rw [exchanges, hsplit, List.map_append, List.map_cons]
  have hwithdrawn := hlogged.withdrawn hfits hexchanges
  have hunseen : ∀ e ∈ later, ∀ a, e.exchange ≠ ⟨.findAchievement id, .ok (some a)⟩ := by
    intro e he a hshown
    exact hwithdrawn.unseen a (hshown ▸ List.mem_map_of_mem he)
  refine ⟨?_, hunseen, hwithdrawn.gone, ?_⟩
  · intro e he hhonoured
    obtain ⟨newer, older, rfl⟩ := List.append_of_mem he
    have hreason := reasoned_run turns newer e
      (older ++ ⟨d, ⟨.deleteAchievement id, .ok true⟩⟩ :: earlier) (by simpa using hsplit)
    obtain ⟨a, ha⟩ := Exchange.shown_of_honoured hhonoured hreason
    obtain ⟨f, hf, hshown⟩ := List.mem_map.1 ha
    obtain ⟨hf, hcaller⟩ := List.mem_filter.1 hf
    replace hcaller := of_decide_eq_true hcaller
    -- The achievement was shown before the deletion, for it is not shown after it.
    rcases List.mem_append.1 hf with hafter | hf
    · have hlater := List.mem_append_right newer (List.mem_cons_of_mem e hafter)
      exact absurd hshown (hunseen f hlater a)
    · rcases List.mem_cons.1 hf with rfl | hbefore
      · cases hshown
      · refine ⟨a, ?_⟩
        rw [← hcaller, ← hshown]
        exact hbefore
  · intro userId hrow
    obtain ⟨total, row, hmem⟩ := hwithdrawn.rows userId hrow
    obtain ⟨e, he, hstarted⟩ := List.mem_map.1 hmem
    exact ⟨e, he, total, row, hstarted⟩

/-- A caller looks up the reward of a row that it has filled, a second one is shown the achievement,
and then it is deleted. The second caller starts a new row and fills it, and the first is paid. -/
def lateVisits : List Turn :=
  let visit : Turn := .start (.record .newYear ⟨7⟩ ⟨1⟩)
  [.start (.createAchievement ⟨⟨1⟩, "Welcome", 5, 10, ⟨.visit 1, .indefinite⟩⟩), .serve 0,
    visit, visit, .start (.deleteAchievement ⟨1⟩),
    .serve 1, .serve 1, .serve 1, .serve 1, .serve 1, .serve 2, .serve 3,
    .serve 2, .serve 2, .serve 2, .serve 1]

/-- A deletion is not final: in the course of these visits a row of the achievement is stored after
its deletion, and in the end its reward is paid. -/
theorem lateVisits_honoured :
    (¬ ∀ (turns : List Turn) (later earlier : List Event) (d : Nat) (id : AchievementId),
      (run turns).store.created < 2147483647 →
      (run turns).history = later ++ ⟨d, ⟨.deleteAchievement id, .ok true⟩⟩ :: earlier →
        ∀ userId : UserId, (run turns).store.progress.find? (userId, id) = none) ∧
    ¬ ∀ (turns : List Turn) (later earlier : List Event) (d : Nat) (id : AchievementId),
      (run turns).store.created < 2147483647 →
      (run turns).history = later ++ ⟨d, ⟨.deleteAchievement id, .ok true⟩⟩ :: earlier →
        ∀ e ∈ later, ∀ p, e.exchange.payment? = some p → p.achievementId ≠ id := by
  constructor
  · intro hclaim
    have hnone := hclaim (lateVisits.take 14) ((run (lateVisits.take 14)).history.take 2)
      ((run (lateVisits.take 14)).history.drop 3) 3 ⟨1⟩ (by decide) rfl ⟨7⟩
    have hrow : (run (lateVisits.take 14)).store.progress.find? (⟨7⟩, ⟨1⟩) =
        some ⟨⟨7⟩, ⟨1⟩, 0, 1⟩ := by decide
    rw [hrow] at hnone
    cases hnone
  · intro hclaim
    exact hclaim lateVisits ((run lateVisits).history.take 4) ((run lateVisits).history.drop 5) 3
      ⟨1⟩ (by decide) rfl ⟨1, ⟨.complete ⟨⟨7⟩, ⟨1⟩, 1, 1⟩ ⟨⟨1⟩, 10, 5⟩, .ok true⟩⟩
      List.mem_cons_self ⟨⟨7⟩, ⟨1⟩, ⟨⟨1⟩, 10, 5⟩⟩ rfl rfl

theorem lateVisits_shown :
    (∃ a, ⟨1, ⟨.findAchievement ⟨1⟩, .ok (some a)⟩⟩ ∈ (run lateVisits).history.drop 5) ∧
      ∃ a, ⟨2, ⟨.findAchievement ⟨1⟩, .ok (some a)⟩⟩ ∈ (run lateVisits).history.drop 5 := by
  have hsplit : (run lateVisits).history = (run lateVisits).history.take 4 ++
      ⟨3, ⟨.deleteAchievement ⟨1⟩, .ok true⟩⟩ :: (run lateVisits).history.drop 5 := rfl
  have hshown := (withdrawal_final lateVisits (by decide) hsplit).1
  have hpaid : ⟨1, ⟨.complete ⟨⟨7⟩, ⟨1⟩, 1, 1⟩ ⟨⟨1⟩, 10, 5⟩, .ok true⟩⟩ ∈
      (run lateVisits).history.take 4 := List.mem_cons_self
  have hstarted : ⟨2, ⟨.createProgress ⟨1⟩ ⟨7⟩ 1, .ok ⟨⟨7⟩, ⟨1⟩, 0, 1⟩⟩⟩ ∈
      (run lateVisits).history.take 4 :=
    List.mem_cons_of_mem _ (List.mem_cons_of_mem _ List.mem_cons_self)
  exact ⟨hshown _ hpaid rfl, hshown _ hstarted rfl⟩

end World

end Loyalty
