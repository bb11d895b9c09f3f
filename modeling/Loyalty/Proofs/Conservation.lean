import Loyalty.Proofs.Catalog

/-!
# Progress is conserved

A counted action stays in its row until the row is paid for. So the actions of a user towards an
achievement that were counted are those that were paid for, a target for each payment, and those
that the stored row still holds. Callers that lag behind, rows that are made twice and faults of the
store change nothing of this.
-/

namespace Loyalty

def Memory.storedProgress (s : Memory) (userId : UserId) (achievementId : AchievementId) : Int :=
  match s.progress.find? (userId, achievementId) with
  | none => 0
  | some row => row.progress.toInt

theorem Memory.storedProgress_of_absent {s : Memory} {userId : UserId}
    {achievementId : AchievementId} (h : s.progress.find? (userId, achievementId) = none) :
    s.storedProgress userId achievementId = 0 := by
  rw [storedProgress, h]

/-- What a log tells of the progress rows in its store. -/
structure Conserved (past : List Exchange) (s : Memory) : Prop where
  rowed : ∀ (userId : UserId) (id : AchievementId) (row : Progress),
    s.progress.find? (userId, id) = some row →
      ∃ a ∈ offersIn past, a.id = id ∧ row.total = a.target ∧
        0 ≤ row.progress.toInt ∧ row.progress.toInt ≤ a.target.toInt
  unknown : ∀ id : AchievementId, (∀ a ∈ offersIn past, a.id ≠ id) → ∀ userId : UserId,
    past.countP (Exchange.counts userId id) = 0 ∧ past.countP (Exchange.pays userId id) = 0
  balanced : ∀ a ∈ offersIn past, (∀ x ∈ past, x.withdrawn? ≠ some a.id) → ∀ userId : UserId,
    (past.countP (Exchange.counts userId a.id) : Int) =
      a.target.toInt * past.countP (Exchange.pays userId a.id) + s.storedProgress userId a.id

theorem conserved_empty : Conserved [] .empty where
  rowed _ _ _ hfound := nomatch hfound
  unknown _ _ _ := ⟨rfl, rfl⟩
  balanced _ ha := absurd ha List.not_mem_nil

namespace Conserved

variable {past : List Exchange} {s s' : Memory} {r : Request} {answer : Except StoreError r.Answer}

theorem rowed_step (h : Conserved past s) (hcatalog : Catalog past s)
    (hreason : r.movesPoints = true ∨ r.Justified past) (hchange : s.Change ⟨r, answer⟩ s')
    {userId : UserId} {id : AchievementId} {row : Progress}
    (hfound : s'.progress.find? (userId, id) = some row) :
    ∃ a ∈ offersIn past, a.id = id ∧ row.total = a.target ∧
      0 ≤ row.progress.toInt ∧ row.progress.toInt ≤ a.target.toInt := by
  have hrow := hchange.row userId id
  rw [hfound] at hrow
  generalize hbefore : s.progress.find? (userId, id) = before at hrow
  generalize hafter : some row = after at hrow
  cases hrow with
  | @counted earlier hopen hx =>
    cases hafter
    obtain ⟨a, ha, hid, htotal, hlow, _⟩ := h.rowed userId id earlier hbefore
    have hcounted := Progress.toInt_counted hopen
    rw [Int32.lt_iff_toInt_lt, htotal] at hopen
    exact ⟨a, ha, hid, htotal, by omega, by omega⟩
  | paid => cases hafter
  | started hx =>
    cases hafter
    cases hx
    rcases hreason with hmoves | ⟨a, hshown, htotal⟩
    · cases hmoves
    · obtain ⟨ha, hid⟩ := hcatalog.shown id a hshown
      obtain ⟨-, -, htarget⟩ := hcatalog.sound a ha
      exact ⟨a, ha, hid, htotal, Int.le_refl 0, Int.le_trans (Int.zero_le_ofNat 1) htarget⟩
  | deleted => cases hafter
  | kept =>
    cases hafter
    exact h.rowed userId id row hbefore

theorem unknown_step (h : Conserved past s) (hchange : s.Change ⟨r, answer⟩ s')
    {id : AchievementId} (hunknown : ∀ a ∈ offersIn past, a.id ≠ id) (userId : UserId) :
    List.countP (Exchange.counts userId id) (⟨r, answer⟩ :: past) = 0 ∧
      List.countP (Exchange.pays userId id) (⟨r, answer⟩ :: past) = 0 := by
  obtain ⟨hcounts, hpays⟩ := h.unknown id hunknown userId
  rw [List.countP_cons, List.countP_cons, hcounts, hpays]
  have hrow := hchange.row userId id
  generalize hbefore : s.progress.find? (userId, id) = before at hrow
  generalize s'.progress.find? (userId, id) = after at hrow
  cases hrow with
  | counted | paid =>
    obtain ⟨a, ha, hid, _⟩ := h.rowed userId id _ hbefore
    exact absurd hid (hunknown a ha)
  | started hx | deleted hx =>
    cases hx
    exact ⟨rfl, rfl⟩
  | kept hcounts hpays => simp [hcounts, hpays]

/-- An achievement that was just created has neither rows nor a past. -/
theorem balanced_offer (h : Conserved past s) (hchange : s.Change ⟨r, answer⟩ s')
    {a : Achievement} (hoffered : Exchange.offered? ⟨r, answer⟩ = some a)
    (hunknown : ∀ b ∈ offersIn past, b.id ≠ a.id) (userId : UserId) :
    (List.countP (Exchange.counts userId a.id) (⟨r, answer⟩ :: past) : Int) =
      a.target.toInt * List.countP (Exchange.pays userId a.id) (⟨r, answer⟩ :: past) +
        s'.storedProgress userId a.id := by
  obtain ⟨hcounts, hpays⟩ := h.unknown_step hchange hunknown userId
  have hbefore : s.progress.find? (userId, a.id) = none := by
    rw [Option.eq_none_iff_forall_ne_some]
    intro row hrow
    obtain ⟨b, hb, hid, _⟩ := h.rowed userId a.id row hrow
    exact hunknown b hb hid
  have hafter : s'.progress.find? (userId, a.id) = none := by
    have hrow := hchange.row userId a.id
    rw [hbefore] at hrow
    generalize s'.progress.find? (userId, a.id) = after at hrow
    cases hrow with
    | started hx =>
      cases hx
      cases hoffered
    | deleted | kept => rfl
  rw [hcounts, hpays, Memory.storedProgress_of_absent hafter]
  simp

theorem balanced_step (h : Conserved past s) (hcatalog : Catalog past s)
    (hchange : s.Change ⟨r, answer⟩ s') {a : Achievement} (ha : a ∈ offersIn past)
    (hkept : ∀ x ∈ (⟨r, answer⟩ :: past : List Exchange), x.withdrawn? ≠ some a.id)
    (userId : UserId) :
    (List.countP (Exchange.counts userId a.id) (⟨r, answer⟩ :: past) : Int) =
      a.target.toInt * List.countP (Exchange.pays userId a.id) (⟨r, answer⟩ :: past) +
        s'.storedProgress userId a.id := by
  have hbalance := h.balanced a ha (fun x hx => hkept x (List.mem_cons_of_mem _ hx)) userId
  have hrow := hchange.row userId a.id
  unfold Memory.storedProgress at hbalance ⊢
  generalize hbefore : s.progress.find? (userId, a.id) = before at hrow hbalance
  generalize s'.progress.find? (userId, a.id) = after at hrow ⊢
  cases hrow with
  | @counted row hopen hx =>
    cases hx
    rw [List.countP_cons_of_pos (by simp [Exchange.counts, Exchange.counted?]),
      List.countP_cons_of_neg (by simp [Exchange.pays, Exchange.payment?])]
    have hcounted := Progress.toInt_counted hopen
    simp only [hcounted] at hbalance ⊢
    omega
  | @paid row stored reward huser hachievement hfull hx =>
    cases hx
    rw [List.countP_cons_of_neg (by simp [Exchange.counts, Exchange.counted?]),
      List.countP_cons_of_pos (by simp [Exchange.pays, Exchange.payment?, huser, hachievement])]
    obtain ⟨b, hb, hid, htotal, _⟩ := h.rowed userId a.id stored hbefore
    have hrow : stored.progress = a.target := by
      rw [hfull, htotal, hcatalog.distinct b hb a ha hid]
    simp only [hrow] at hbalance ⊢
    rw [hbalance, Int.natCast_add, Int.mul_add]
    simp
  | started hx =>
    cases hx
    rw [List.countP_cons_of_neg (by simp [Exchange.counts, Exchange.counted?]),
      List.countP_cons_of_neg (by simp [Exchange.pays, Exchange.payment?])]
    exact hbalance
  | deleted hx =>
    cases hx
    exact absurd rfl (hkept _ List.mem_cons_self)
  | kept hcounts hpays =>
    rw [List.countP_cons_of_neg (by simp [hcounts]), List.countP_cons_of_neg (by simp [hpays])]
    exact hbalance

theorem step (h : Conserved past s) (hcatalog : Catalog past s)
    (hreason : r.movesPoints = true ∨ r.Justified past) (hanswer : s.Answers r answer s')
    (hfits : s.created < 2147483647) : Conserved (⟨r, answer⟩ :: past) s' := by
  have hchange := hanswer.change
  refine ⟨?_, ?_, ?_⟩
  · intro userId id row hfound
    obtain ⟨a, ha, hrow⟩ := h.rowed_step hcatalog hreason hchange hfound
    exact ⟨a, mem_offersIn_cons.2 (Or.inr ha), hrow⟩
  · intro id hunknown userId
    apply h.unknown_step hchange fun a ha => hunknown a (mem_offersIn_cons.2 (Or.inr ha))
  · intro a ha hkept userId
    rcases mem_offersIn_cons.1 ha with hoffered | ha
    · apply h.balanced_offer hchange hoffered _ userId
      intro b hb
      rw [(hchange.offered hoffered).1]
      exact hcatalog.ne_nextId hfits hb
    · exact h.balanced_step hcatalog hchange ha hkept userId

end Conserved

theorem Logged.conserved {direct : Prop} {past : List Exchange} {s : Memory}
    (h : Logged direct past s) (hfits : s.created < 2147483647) : Conserved past s := by
  induction h with
  | empty => exact conserved_empty
  | answered h hreason hanswer ih =>
    have hgrows := hanswer.change.created_le
    exact (ih (by omega)).step (h.catalog (by omega)) (hreason.imp_left And.right) hanswer
      (by omega)

namespace World

/-- Whatever turns are taken: of an achievement that was created and is not deleted, the counted
actions of a user are its target for each payment and the stored progress. A stored row counts up
to the target. And every payment was made by a caller that is told of it, and of no other one. -/
theorem progress_conserved (turns : List Turn) (hfits : (run turns).store.created < 2147483647) :
    (∀ achievement ∈ offersIn (run turns).exchanges,
      (∀ x ∈ (run turns).exchanges, x.withdrawn? ≠ some achievement.id) → ∀ userId : UserId,
        ((run turns).exchanges.countP (Exchange.counts userId achievement.id) : Int) =
          achievement.target.toInt *
            (run turns).exchanges.countP (Exchange.pays userId achievement.id) +
            (run turns).store.storedProgress userId achievement.id ∧
        ∀ row, (run turns).store.progress.find? (userId, achievement.id) = some row →
          row.total = achievement.target ∧ 0 ≤ row.progress ∧ row.progress ≤ row.total) ∧
    (∀ e ∈ (run turns).history, e.caller < (run turns).callers.length) ∧
    ∀ i, paymentsIn ((run turns).past i) =
      (((run turns).callers[i]?).bind Caller.told?).toList := by
  have hlogged : Logged True (run turns).exchanges (run turns).store :=
    logged_run turns fun _ _ _ => trivial
  have hfaithful : Faithful (fun _ => True) (run turns) := faithful_run turns fun _ _ => trivial
  have hconserved := hlogged.conserved hfits
  refine ⟨?_, hfaithful.known, hfaithful.paymentsIn_past⟩
  intro achievement hoffered hkept userId
  refine ⟨hconserved.balanced achievement hoffered hkept userId, ?_⟩
  intro row hfound
  obtain ⟨a, ha, hid, htotal, hlow, hhigh⟩ := hconserved.rowed userId achievement.id row hfound
  rw [(hlogged.catalog hfits).distinct a ha achievement hoffered hid] at htotal hhigh
  refine ⟨htotal, ?_, ?_⟩
  · rwa [Int32.le_iff_toInt_le]
  · rwa [Int32.le_iff_toInt_le, htotal]

def regular : Achievement := ⟨⟨1⟩, ⟨1⟩, "Regular", 5, 10, ⟨.visit 2, .indefinite⟩⟩

/-- Three visits count towards an achievement of two. The first two callers race to start the row,
and the last one starts it again after it was paid for. -/
def threeVisits : List Turn :=
  let visit : Turn := .start (.record .newYear ⟨7⟩ ⟨1⟩)
  [.start (.createAchievement ⟨⟨1⟩, "Regular", 5, 10, ⟨.visit 2, .indefinite⟩⟩), .serve 0,
    visit, visit, .serve 1, .serve 2, .serve 1, .serve 2, .serve 1, .serve 2, .serve 2,
    .serve 1, .serve 2, .serve 2, .serve 2, visit, .serve 3, .serve 3, .serve 3, .serve 3]

theorem threeVisits_conserved :
    ((run threeVisits).exchanges.countP (Exchange.counts ⟨7⟩ ⟨1⟩) : Int) =
      2 * (run threeVisits).exchanges.countP (Exchange.pays ⟨7⟩ ⟨1⟩) +
        (run threeVisits).store.storedProgress ⟨7⟩ ⟨1⟩ ∧
    (run threeVisits).exchanges.countP (Exchange.pays ⟨7⟩ ⟨1⟩) = 1 ∧
    (run threeVisits).store.storedProgress ⟨7⟩ ⟨1⟩ = 1 := by
  obtain ⟨hbalance, -, -⟩ := progress_conserved threeVisits (by decide)
  exact ⟨(hbalance regular (by decide) (by decide) ⟨7⟩).1, by decide, by decide⟩

end World

end Loyalty
