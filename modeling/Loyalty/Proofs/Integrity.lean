import Loyalty.Proofs.Reach

/-!
# The integrity of the store

What is stored has passed its checks, and the tables fit together: identifiers and emails tell rows
apart, every progress row belongs to a stored achievement and counts up to its target, and no
balance is negative. A request that has its ground in the store keeps all of this, and in a sequence
of service calls every request has.
-/

namespace Loyalty

structure Coupon.WellFormed (c : Coupon) : Prop where
  named : c.name ≠ ""
  points : 0 ≤ c.points
  level : 0 ≤ c.level
  ordered : ∀ w : DateWindow, c.validity = .window w → w.opens ≤ w.closes

structure Achievement.WellFormed (a : Achievement) : Prop where
  named : a.name ≠ ""
  experience : 0 ≤ a.experience
  points : 0 ≤ a.points
  target : 1 ≤ a.target
  item : ∀ item quantity, a.requirement.goal = .purchase item quantity → item ≠ ""

theorem NewCoupon.wellFormed {form : CouponForm} {input : NewCoupon}
    (h : form.validate = .ok input) (id : CouponId) :
    Coupon.WellFormed ⟨id, input.restaurantId, input.name, input.description, input.points,
      input.level, input.validity, false⟩ := by
  obtain ⟨hentries, validity, -, rfl⟩ := CouponForm.validate_eq_ok h
  simp [CouponForm.fieldReport, Report.entries_check, Int32.not_lt] at hentries
  obtain ⟨hpoints, hname, hlevel⟩ := hentries
  exact ⟨hname, hpoints, hlevel, fun w _ => w.opens_le_closes⟩

theorem NewAchievement.wellFormed {input : NewAchievement} (h : input.report.verdict = .ok ())
    (id : AchievementId) :
    Achievement.WellFormed ⟨id, input.restaurantId, input.name, input.experience, input.points,
      input.requirement⟩ := by
  rw [Report.verdict_eq_ok_iff] at h
  simp [report, achievementFieldReport, Report.entries_check, Int32.not_lt] at h
  obtain ⟨hname, hexperience, hpoints, htarget, hitem⟩ := h
  refine ⟨hname, hexperience, hpoints, htarget, ?_⟩
  rintro item quantity hgoal rfl
  change input.requirement.goal = _ at hgoal
  rw [hgoal] at hitem
  cases hitem

namespace Memory

def identifiers (s : Memory) : List Amount :=
  s.users.rows.map (fun u => u.id.value) ++ (s.restaurants.rows.map (fun r => r.id.value) ++
    (s.coupons.rows.map (fun c => c.id.value) ++ s.achievements.rows.map fun a => a.id.value))

structure Sound (s : Memory) : Prop where
  numbered : ∀ i ∈ s.identifiers, 1 ≤ i.toInt ∧ i.toInt ≤ s.created
  distinct : s.identifiers.Nodup
  emails : ∀ email ∈ s.users.rows.map User.email, email ≠ ""
  emails_distinct : (s.users.rows.map User.email).Nodup
  coupons : ∀ c ∈ s.coupons.rows, c.WellFormed
  achievements : ∀ a ∈ s.achievements.rows, a.WellFormed
  progress : ∀ row ∈ s.progress.rows, ∃ a, s.achievements.find? row.achievementId = some a ∧
    row.total = a.target ∧ 0 ≤ row.progress ∧ row.progress ≤ row.total
  balances : ∀ b ∈ s.balances.rows, 0 ≤ b.points ∧ 0 ≤ b.experience

theorem sound_empty : empty.Sound where
  numbered _ hi := absurd hi List.not_mem_nil
  distinct := List.nodup_nil
  emails _ he := absurd he List.not_mem_nil
  emails_distinct := List.nodup_nil
  coupons _ hc := absurd hc List.not_mem_nil
  achievements _ ha := absurd ha List.not_mem_nil
  progress _ hrow := absurd hrow List.not_mem_nil
  balances _ hb := absurd hb List.not_mem_nil

namespace Change

variable {s s' : Memory} {x : Exchange}

theorem identifiers (h : s.Change x s') (hnew : s.nextId ∉ s.identifiers) :
    s'.created = s.created + 1 ∧ s'.identifiers.Perm (s.nextId :: s.identifiers) ∨
      s'.created = s.created ∧ s'.identifiers.Sublist s.identifiers := by
  simp only [Memory.identifiers, List.mem_append, List.mem_map, not_or, not_exists, not_and] at hnew
  obtain ⟨husers, hrestaurants, hcoupons, hachievements⟩ := hnew
  cases h with
  | @createUser input user _ huser =>
    subst huser
    have hperm := Table.perm_put (t := s.users) (r := ⟨⟨s.nextId⟩, input.name, input.email,
      input.passwordDigest, input.accountType⟩)
      (Table.find?_eq_none_iff.2 fun u hu hkey => husers u hu (congrArg UserId.value hkey))
    exact Or.inl ⟨rfl, (hperm.map _).append_right _⟩
  | @createRestaurant input restaurant hrestaurant =>
    subst hrestaurant
    have hperm := Table.perm_put (t := s.restaurants) (r := ⟨⟨s.nextId⟩, input.name, input.address⟩)
      (Table.find?_eq_none_iff.2 fun r hr hkey =>
        hrestaurants r hr (congrArg RestaurantId.value hkey))
    exact Or.inl ⟨rfl, (((hperm.map _).append_right _).append_left _).trans List.perm_middle⟩
  | @createCoupon input coupon hcoupon =>
    subst hcoupon
    have hperm := Table.perm_put (t := s.coupons) (r := ⟨⟨s.nextId⟩, input.restaurantId, input.name,
      input.description, input.points, input.level, input.validity, false⟩)
      (Table.find?_eq_none_iff.2 fun c hc hkey => hcoupons c hc (congrArg CouponId.value hkey))
    refine Or.inl ⟨rfl, ?_⟩
    have hrest := ((hperm.map fun c => c.id.value).append_right
      (s.achievements.rows.map fun a => a.id.value))
    exact ((((hrest.append_left _).trans List.perm_middle)).append_left _).trans List.perm_middle
  | @createAchievement input achievement hachievement =>
    subst hachievement
    have hperm := Table.perm_put (t := s.achievements) (r := ⟨⟨s.nextId⟩, input.restaurantId,
      input.name, input.experience, input.points, input.requirement⟩)
      (Table.find?_eq_none_iff.2 fun a ha hkey =>
        hachievements a ha (congrArg AchievementId.value hkey))
    refine Or.inl ⟨rfl, ?_⟩
    have hrest := ((hperm.map fun a => a.id.value).append_left
      (s.coupons.rows.map fun c => c.id.value)).trans List.perm_middle
    exact ((((hrest.append_left _).trans List.perm_middle)).append_left _).trans List.perm_middle
  | @setAccountType id accountType user hfound =>
    obtain rfl : user.id = id := (Table.find?_eq_some_iff.1 hfound).2
    have hsame := Table.map_put (f := fun u : User => u.id.value)
      (r := { user with accountType := accountType }) hfound rfl
    refine Or.inr ⟨rfl, ?_⟩
    simp only [Memory.identifiers, hsame]
    exact List.Sublist.refl _
  | @markDeleted id coupon hfound =>
    obtain rfl : coupon.id = id := (Table.find?_eq_some_iff.1 hfound).2
    have hsame := Table.map_put (f := fun c : Coupon => c.id.value)
      (r := { coupon with deleted := true }) hfound rfl
    refine Or.inr ⟨rfl, ?_⟩
    simp only [Memory.identifiers, hsame]
    exact List.Sublist.refl _
  | deleteAchievement =>
    refine Or.inr ⟨rfl, ?_⟩
    exact ((((List.filter_sublist).map _).append_left _).append_left _).append_left _
  | _ => exact Or.inr ⟨rfl, List.Sublist.refl _⟩

theorem emails (h : s.Change x s') (hnew : s.nextId ∉ s.identifiers) :
    (∃ input user, x = ⟨.createUser input, .ok user⟩ ∧
        input.email ∉ s.users.rows.map User.email ∧
        (s'.users.rows.map User.email).Perm (input.email :: s.users.rows.map User.email)) ∨
      s'.users.rows.map User.email = s.users.rows.map User.email := by
  cases h with
  | @createUser input user hfree huser =>
    subst huser
    simp only [Memory.identifiers, List.mem_append, List.mem_map, not_or, not_exists,
      not_and] at hnew
    have hperm := Table.perm_put (t := s.users) (r := ⟨⟨s.nextId⟩, input.name, input.email,
      input.passwordDigest, input.accountType⟩)
      (Table.find?_eq_none_iff.2 fun u hu hkey => hnew.1 u hu (congrArg UserId.value hkey))
    refine Or.inl ⟨input, _, rfl, ?_, hperm.map _⟩
    intro htaken
    obtain ⟨u, hu, hemail⟩ := List.mem_map.1 htaken
    exact hfree u hu hemail
  | @setAccountType id accountType user hfound =>
    obtain rfl : user.id = id := (Table.find?_eq_some_iff.1 hfound).2
    have hsame := Table.map_put (f := User.email) (r := { user with accountType := accountType })
      hfound rfl
    exact Or.inr hsame
  | _ => exact Or.inr rfl

theorem mem_coupons (h : s.Change x s') {c : Coupon} (hc : c ∈ s'.coupons.rows) :
    (∃ input : NewCoupon, x = ⟨.createCoupon input, .ok c⟩ ∧
        c = ⟨⟨s.nextId⟩, input.restaurantId, input.name, input.description, input.points,
          input.level, input.validity, false⟩) ∨
      ∃ earlier ∈ s.coupons.rows, ∃ deleted, c = { earlier with deleted := deleted } := by
  cases h with
  | @createCoupon input coupon hcoupon =>
    rcases Table.mem_put.1 hc with rfl | ⟨hc, -⟩
    · exact Or.inl ⟨input, rfl, hcoupon⟩
    · exact Or.inr ⟨c, hc, c.deleted, rfl⟩
  | @markDeleted id coupon hfound =>
    rcases Table.mem_put.1 hc with rfl | ⟨hc, -⟩
    · exact Or.inr ⟨coupon, (Table.find?_eq_some_iff.1 hfound).1, true, rfl⟩
    · exact Or.inr ⟨c, hc, c.deleted, rfl⟩
  | _ => exact Or.inr ⟨c, hc, c.deleted, rfl⟩

theorem mem_achievements (h : s.Change x s') {a : Achievement} (ha : a ∈ s'.achievements.rows) :
    (∃ input : NewAchievement, x = ⟨.createAchievement input, .ok a⟩ ∧
        a = ⟨⟨s.nextId⟩, input.restaurantId, input.name, input.experience, input.points,
          input.requirement⟩) ∨ a ∈ s.achievements.rows := by
  cases h with
  | @createAchievement input achievement hachievement =>
    rcases Table.mem_put.1 ha with rfl | ⟨ha, -⟩
    · exact Or.inl ⟨input, rfl, hachievement⟩
    · exact Or.inr ha
  | deleteAchievement => exact Or.inr (List.mem_filter.1 ha).1
  | _ => exact Or.inr ha

end Change

end Memory

/-- The reason of a request, in the store that it is made of. -/
def Request.Grounded (s : Memory) : Request → Prop
  | .createUser input => input.email ≠ ""
  | .createCoupon input => ∃ form : CouponForm, form.validate = .ok input
  | .createAchievement input => input.report.verdict = .ok ()
  | .createProgress id _ total =>
    ∃ a, s.achievements.find? id = some a ∧ total = a.target
  | .complete row reward =>
    ∃ a, s.achievements.find? row.achievementId = some a ∧ reward = a.reward
  | .credit .. => False
  | _ => True

namespace Memory.Sound

variable {s s' : Memory} {r : Request} {answer : Except StoreError r.Answer}

theorem nextId_not_mem (h : s.Sound) (hroom : s.created < 2147483647) :
    s.nextId ∉ s.identifiers := by
  intro hnext
  have hle := (h.numbered _ hnext).2
  rw [toInt_nextId hroom] at hle
  omega

theorem achievement_ne_nextId (h : s.Sound) (hroom : s.created < 2147483647) {id : AchievementId}
    {a : Achievement} (hfound : s.achievements.find? id = some a) : id ≠ ⟨s.nextId⟩ := by
  rintro rfl
  obtain ⟨ha, hid⟩ := Table.find?_eq_some_iff.1 hfound
  apply h.nextId_not_mem hroom
  have hmem : a.id.value ∈ s.achievements.rows.map fun a => a.id.value := List.mem_map_of_mem ha
  rw [show a.id.value = s.nextId from congrArg AchievementId.value hid] at hmem
  simp only [identifiers, List.mem_append]
  exact Or.inr (Or.inr (Or.inr hmem))

theorem progress_step (h : s.Sound) (hground : r.Grounded s) (hchange : s.Change ⟨r, answer⟩ s')
    (hroom : s.created < 2147483647) {row : Progress} (hrow : row ∈ s'.progress.rows) :
    ∃ a, s'.achievements.find? row.achievementId = some a ∧ row.total = a.target ∧
      0 ≤ row.progress ∧ row.progress ≤ row.total := by
  have hfound : s'.progress.find? (row.userId, row.achievementId) = some row :=
    Table.find?_eq_some_iff.2 ⟨hrow, rfl⟩
  have hbefore : ∃ a, s.achievements.find? row.achievementId = some a ∧ row.total = a.target ∧
      0 ≤ row.progress ∧ row.progress ≤ row.total := by
    have hstep := hchange.row row.userId row.achievementId
    generalize hearlier : s.progress.find? (row.userId, row.achievementId) = before at hstep
    generalize hlater : s'.progress.find? (row.userId, row.achievementId) = after at hstep
    rw [hfound] at hlater
    cases hstep with
    | @counted earlier hopen hx =>
      cases hlater
      obtain ⟨a, ha, htotal, hlow, -⟩ := h.progress earlier (Table.find?_eq_some_iff.1 hearlier).1
      have hcounted := Progress.toInt_counted hopen
      refine ⟨a, ha, htotal, ?_, ?_⟩
      · rw [Int32.le_iff_toInt_le] at hlow ⊢
        rw [hcounted]
        exact Int.le_add_one hlow
      · rw [Int32.le_iff_toInt_le, hcounted]
        exact Int32.lt_iff_toInt_lt.1 hopen
    | paid => cases hlater
    | @started total hx =>
      cases hx
      obtain ⟨a, ha, htotal⟩ := hground
      have htarget := (h.achievements a (Table.find?_eq_some_iff.1 ha).1).target
      rw [Option.some.inj hlater]
      refine ⟨a, ha, htotal, Int32.le_refl 0, ?_⟩
      have hlow : (0 : Amount) ≤ 1 := by decide
      rw [htotal]
      exact Int32.le_trans hlow htarget
    | deleted => cases hlater
    | kept =>
      subst hlater
      exact h.progress row (Table.find?_eq_some_iff.1 hearlier).1
  obtain ⟨a, ha, hcounts⟩ := hbefore
  rcases hchange.achievement_stays ha (h.achievement_ne_nextId hroom ha) with hthere | ⟨-, hgone⟩
  · exact ⟨a, hthere, hcounts⟩
  · rw [hgone] at hfound
    cases hfound

theorem balances_step (h : s.Sound) (hground : r.Grounded s) (hchange : s.Change ⟨r, answer⟩ s')
    {b : Balance} (hb : b ∈ s'.balances.rows) : 0 ≤ b.points ∧ 0 ≤ b.experience := by
  have hstep := hchange.balance b.userId b.restaurantId
  have hfound : s'.balances.find? (b.userId, b.restaurantId) = some b :=
    Table.find?_eq_some_iff.2 ⟨hb, rfl⟩
  generalize hearlier : s.balances.find? (b.userId, b.restaurantId) = before at hstep
  generalize hlater : s'.balances.find? (b.userId, b.restaurantId) = after at hstep
  rw [hfound] at hlater
  have hstored : ∀ earlier, before = some earlier → 0 ≤ earlier.points ∧ 0 ≤ earlier.experience :=
    fun earlier he => h.balances earlier (Table.find?_eq_some_iff.1 (hearlier.trans he)).1
  cases hstep with
  | credited _ hx =>
    cases hx
    exact hground.elim
  | @paid row reward _ after _ hrestaurant hcredit hx =>
    cases hlater
    cases hx
    obtain ⟨a, ha, rfl⟩ := hground
    have hformed := h.achievements a (Table.find?_eq_some_iff.1 ha).1
    obtain ⟨hpoints, hexperience⟩ := toInt_of_credited? hcredit
    have hheld : 0 ≤ (before.getD (.empty b.userId b.restaurantId)).points ∧
        0 ≤ (before.getD (.empty b.userId b.restaurantId)).experience := by
      cases before with
      | none => exact ⟨Int32.le_refl 0, Int32.le_refl 0⟩
      | some earlier => exact hstored earlier rfl
    have hreward := hformed.points
    have hreward' := hformed.experience
    simp only [Int32.le_iff_toInt_le] at hheld hreward hreward' ⊢
    change b.points.toInt = _ + a.points.toInt at hpoints
    change b.experience.toInt = _ + a.experience.toInt at hexperience
    rw [hpoints, hexperience]
    exact ⟨Int.add_nonneg hheld.1 hreward, Int.add_nonneg hheld.2 hreward'⟩
  | @debited points rest earlier hcovered hrest hx =>
    cases hlater
    refine ⟨?_, (hstored earlier rfl).2⟩
    have hrest' := Amount.ofInt?_eq_some_iff.1 hrest
    rw [Int32.not_lt, Int32.le_iff_toInt_le] at hcovered
    rw [Int32.le_iff_toInt_le]
    change (0 : Int) ≤ rest.toInt
    omega
  | kept => exact hstored b hlater.symm

/-- A request that has its ground in the store keeps it sound. -/
theorem step (h : s.Sound) (hground : r.Grounded s) (hchange : s.Change ⟨r, answer⟩ s')
    (hroom : s.created < 2147483647) : s'.Sound where
  numbered := by
    intro i hi
    rcases hchange.identifiers (h.nextId_not_mem hroom) with ⟨hcreated, hperm⟩ | ⟨hcreated, hsub⟩
    · rcases List.mem_cons.1 (hperm.mem_iff.1 hi) with rfl | hi
      · rw [toInt_nextId hroom]
        omega
      · have := h.numbered i hi
        omega
    · have := h.numbered i (hsub.subset hi)
      omega
  distinct := by
    rcases hchange.identifiers (h.nextId_not_mem hroom) with ⟨-, hperm⟩ | ⟨-, hsub⟩
    · exact hperm.nodup_iff.2 (List.nodup_cons.2 ⟨h.nextId_not_mem hroom, h.distinct⟩)
    · exact h.distinct.sublist hsub
  emails := by
    intro email hemail
    rcases hchange.emails (h.nextId_not_mem hroom) with ⟨input, user, hx, -, hperm⟩ | hsame
    · cases hx
      rcases List.mem_cons.1 (hperm.mem_iff.1 hemail) with rfl | hemail
      · exact hground
      · exact h.emails email hemail
    · exact h.emails email (hsame ▸ hemail)
  emails_distinct := by
    rcases hchange.emails (h.nextId_not_mem hroom) with ⟨input, user, -, hfree, hperm⟩ | hsame
    · exact hperm.nodup_iff.2 (List.nodup_cons.2 ⟨hfree, h.emails_distinct⟩)
    · rw [hsame]
      exact h.emails_distinct
  coupons := by
    intro c hc
    rcases hchange.mem_coupons hc with ⟨input, hx, rfl⟩ | ⟨earlier, hearlier, deleted, rfl⟩
    · cases hx
      obtain ⟨form, hform⟩ := hground
      exact NewCoupon.wellFormed hform _
    · obtain ⟨hnamed, hpoints, hlevel, hordered⟩ := h.coupons earlier hearlier
      exact ⟨hnamed, hpoints, hlevel, hordered⟩
  achievements := by
    intro a ha
    rcases hchange.mem_achievements ha with ⟨input, hx, rfl⟩ | ha
    · cases hx
      exact NewAchievement.wellFormed hground _
    · exact h.achievements a ha
  progress _ hrow := h.progress_step hground hchange hroom hrow
  balances _ hb := h.balances_step hground hchange hb

end Memory.Sound

namespace Memory

/-- The achievements that were shown are stored as they were shown. -/
def Remembers (s : Memory) (past : List Exchange) : Prop :=
  ∀ id a, (⟨.findAchievement id, .ok (some a)⟩ : Exchange) ∈ past → s.achievements.find? id = some a

theorem Remembers.step {s : Memory} {past : List Exchange} (h : s.Remembers past) (hsound : s.Sound)
    (hroom : s.created < 2147483647) {r : Request} (hkeeps : r.withdraws? = none) :
    (handle r s).2.Remembers (⟨r, (handle r s).1⟩ :: past) := by
  intro id a hshown
  have hstored : s.achievements.find? id = some a := by
    rcases List.mem_cons.1 hshown with hnow | hbefore
    · generalize hanswer : (handle r s).1 = answer at hnow
      cases hnow
      exact Except.ok.inj hanswer
    · exact h id a hbefore
  apply ((change_handle s r).achievement_stays hstored (hsound.achievement_ne_nextId hroom hstored))
    |>.resolve_right
  rintro ⟨hgone, -⟩
  rw [hkeeps] at hgone
  cases hgone

end Memory

/-- A reason among the exchanges is one in the store, as far as that remembers what it has shown. -/
theorem Request.Justified.grounded {s : Memory} {past : List Exchange} {r : Request}
    (h : r.Justified past) (hshown : r.rowKey? ≠ none → s.Remembers past) : r.Grounded s := by
  cases r with
  | createProgress id userId total =>
    obtain ⟨a, ha, htotal⟩ := h
    exact ⟨a, hshown nofun id a ha, htotal⟩
  | complete row reward =>
    obtain ⟨a, ha, hreward⟩ := h
    exact ⟨a, hshown nofun row.achievementId a ha, hreward⟩
  | debit => trivial
  | _ => exact h

namespace Memory

/-- A service call keeps the store sound. An operation that works on a row deletes no achievement,
so what it was shown is still there when it writes. -/
theorem Sound.call {op : Operation} {s : Memory} (h : s.Sound) (hop : op.movesPoints = false)
    (hfits : (op.call s).after.created < 2147483647) : (op.call s).after.Sound := by
  have hrun := (op.keeps_script.and op.keeps_within).run (s := s) (P := fun past s' =>
    s'.created < 2147483647 → s'.Sound ∧ (op.withdraws? = none → s'.Remembers past))
    (fun _ => ⟨h, fun _ _ _ hshown => absurd hshown List.not_mem_nil⟩) ?_
  · obtain ⟨_, hafter, -⟩ := hrun
    exact (hafter hfits).1
  · rintro past s₁ r hs₁ ⟨⟨-, hjust⟩, hkey, hdeletes, -⟩ hfits₁
    have hchange := change_handle s₁ r
    have hroom := Nat.lt_of_le_of_lt hchange.created_le hfits₁
    obtain ⟨hsound, hremembers⟩ := hs₁ hroom
    have hjustified : r.Justified past := by
      rcases hjust with ⟨hmoves, -⟩ | hjust
      · rw [hop] at hmoves
        cases hmoves
      · exact hjust
    -- Only a request that works on a row has a reason that was shown, and then nothing is deleted.
    have hground : r.Grounded s₁ := by
      apply hjustified.grounded
      intro hrow
      apply hremembers
      apply Operation.withdraws?_of_rowKey?
      rw [← hkey.resolve_left hrow]
      exact hrow
    refine ⟨hsound.step hground hchange hroom, fun hkeeps => ?_⟩
    apply (hremembers hkeeps).step hsound hroom
    rcases hdeletes with hdeletes | hdeletes
    · exact hdeletes
    · exact hdeletes.trans hkeeps

theorem Sound.serve {ops : List Operation} {s : Memory} (h : s.Sound)
    (hops : ∀ op ∈ ops, op.movesPoints = false) (hfits : (serve ops s).created < 2147483647) :
    (serve ops s).Sound :=
  serve_induction (fun _ _ hop hs hroom => hs.call hop hroom) ops hops h hfits

end Memory

def Call.allotted? (c : Call) : Option Amount :=
  match c.op, c.answer with
  | .register _, .ok (.user user) => some user.id.value
  | .createRestaurant _, .ok (.restaurant restaurant) => some restaurant.id.value
  | .createCoupon _, .ok (.coupon coupon) => some coupon.id.value
  | .createAchievement _, .ok (.achievement achievement) => some achievement.id.value
  | .createCompactAchievement _, .ok (.achievement achievement) => some achievement.id.value
  | _, _ => none

namespace Memory

/-- The next identifier was given out, or none was. -/
def Allots (s : Memory) (allotted : Option Amount) (s' : Memory) : Prop :=
  allotted = some s.nextId ∧ s'.created = s.created + 1 ∨ allotted = none ∧ s'.created = s.created

theorem created_of_handle {s : Memory} {r : Request} (h : r.creates = false) :
    (handle r s).2.created = s.created := by
  have hchange := change_handle s r
  generalize (handle r s).1 = answer at hchange
  generalize (handle r s).2 = s' at hchange
  cases hchange with
  | createUser | createRestaurant | createCoupon | createAchievement => cases h
  | _ => rfl

theorem created_of_call {op : Operation} {s : Memory} (h : op.creates = false) :
    (op.call s).after.created = s.created := by
  obtain ⟨_, hcreated, -⟩ := op.keeps_within.run (s := s) (P := fun _ s' => s'.created = s.created)
    rfl fun _ s₁ r hs₁ hwithin => by
      rcases hwithin.creation with hr | hop
      · exact (created_of_handle hr).trans hs₁
      · rw [h] at hop
        cases hop
  exact hcreated

theorem allots_call (op : Operation) (s : Memory) :
    s.Allots (op.call s).allotted? (op.call s).after := by
  by_cases hop : op.revises = true
  · have hwrites := Call.writes_call hop s
    change (op.call s).before.Allots (op.call s).allotted? (op.call s).after
    generalize op.call s = c at hwrites
    cases hwrites with
    | @refused op => cases op <;> exact Or.inr ⟨rfl, rfl⟩
    | retypes => exact Or.inr ⟨rfl, rfl⟩
    | marks => exact Or.inr ⟨rfl, rfl⟩
    | withdraws => exact Or.inr ⟨rfl, rfl⟩
    | registers huser =>
      subst huser
      exact Or.inl ⟨rfl, rfl⟩
    | opens hrestaurant =>
      subst hrestaurant
      exact Or.inl ⟨rfl, rfl⟩
    | issues _ hcoupon =>
      subst hcoupon
      exact Or.inl ⟨rfl, rfl⟩
    | offers hoffer _ hachievement =>
      subst hachievement
      rcases hoffer with rfl | ⟨form, rfl, -⟩ <;> exact Or.inl ⟨rfl, rfl⟩
  · cases op with
    | register | createRestaurant | createCoupon | createAchievement | createCompactAchievement =>
      exact absurd rfl hop
    | _ => exact Or.inr ⟨rfl, created_of_call rfl⟩

theorem allotted_calls (ops : List Operation) (s : Memory)
    (hfits : (serve ops s).created < 2147483647) :
    ((calls ops s).filterMap Call.allotted?).map Int32.toInt =
      (List.range' (s.created + 1) ((serve ops s).created - s.created)).map Nat.cast := by
  induction ops generalizing s with
  | nil => simp [calls, serve]
  | cons op ops ih =>
    have hrest := ih (op.call s).after hfits
    have hgrows := created_le_serve ops (op.call s).after
    rcases allots_call op s with ⟨hnext, hcreated⟩ | ⟨hnone, hcreated⟩
    · have hroom : s.created < 2147483647 := by
        rw [serve] at hfits
        omega
      have hcount : (serve ops (op.call s).after).created - s.created =
          (serve ops (op.call s).after).created - (op.call s).after.created + 1 := by omega
      rw [calls, List.filterMap_cons_some hnext, List.map_cons, hrest, serve, hcount,
        List.range'_succ, List.map_cons, toInt_nextId hroom, hcreated]
      rfl
    · rw [calls, List.filterMap_cons_none hnone, hrest, serve, hcreated]

structure Indexed (s : Memory) : Prop where
  users : ∀ id u, s.users.find? id = some u ↔ u ∈ s.users.rows ∧ u.id = id
  restaurants : ∀ id r, s.restaurants.find? id = some r ↔ r ∈ s.restaurants.rows ∧ r.id = id
  coupons : ∀ id c, s.coupons.find? id = some c ↔ c ∈ s.coupons.rows ∧ c.id = id
  achievements : ∀ id a, s.achievements.find? id = some a ↔ a ∈ s.achievements.rows ∧ a.id = id
  progress : ∀ key row, s.progress.find? key = some row ↔
    row ∈ s.progress.rows ∧ (row.userId, row.achievementId) = key
  balances : ∀ key b, s.balances.find? key = some b ↔
    b ∈ s.balances.rows ∧ (b.userId, b.restaurantId) = key

theorem indexed (s : Memory) : s.Indexed where
  users _ _ := Table.find?_eq_some_iff
  restaurants _ _ := Table.find?_eq_some_iff
  coupons _ _ := Table.find?_eq_some_iff
  achievements _ _ := Table.find?_eq_some_iff
  progress _ _ := Table.find?_eq_some_iff
  balances _ _ := Table.find?_eq_some_iff

theorem Sound.isComplete_eq {s : Memory} (h : s.Sound) {row : Progress}
    (hrow : row ∈ s.progress.rows) : row.isComplete = decide (row.progress = row.total) := by
  obtain ⟨a, -, -, -, hle⟩ := h.progress row hrow
  rw [Progress.isComplete, decide_eq_decide]
  constructor
  · exact Int32.le_antisymm hle
  · intro hfull
    rw [hfull]
    exact Int32.le_refl _

/-- After any sequence of service calls what is stored is in order, every table is indexed by the
identifiers in its rows, both tests of a full row agree, and the identifiers that were given out are
the whole numbers from one up to the number of creations. -/
theorem integrity_kept (ops : List Operation) (hops : ∀ op ∈ ops, op.movesPoints = false)
    (hfits : (serve ops empty).created < 2147483647) :
    (serve ops empty).Sound ∧ (serve ops empty).Indexed ∧
      (∀ row ∈ (serve ops empty).progress.rows,
        row.isComplete = decide (row.progress = row.total)) ∧
      ((calls ops empty).filterMap Call.allotted?).map Int32.toInt =
        (List.range' 1 (serve ops empty).created).map Nat.cast := by
  have hsound := sound_empty.serve hops hfits
  exact ⟨hsound, indexed _, fun row hrow => hsound.isComplete_eq hrow,
    allotted_calls ops empty hfits⟩

/-- Two visits of which the second would overflow the balance, after a registration that is made
twice. -/
def overflowingVisits : List Operation :=
  let ada : Registration := ⟨"Ada", "ada@example.com", "digest", "digest", .customer⟩
  let visit : Operation := .record .newYear ⟨1⟩ ⟨4⟩
  [.register ada, .register ada, .createRestaurant ⟨"Corner", "1 Main Street"⟩,
    .createCoupon ⟨⟨2⟩, "Tea", "One cup", 6, 0, none, none, true⟩,
    .createAchievement ⟨⟨2⟩, "Welcome", 5, 2147483647, ⟨.visit 1, .indefinite⟩⟩,
    .createAchievement ⟨⟨2⟩, "", 5, 10, ⟨.visit 1, .indefinite⟩⟩, visit, visit]

theorem overflowingVisits_integrity :
    (serve overflowingVisits empty).Sound ∧
      (serve overflowingVisits empty).progress.rows = [⟨⟨1⟩, ⟨4⟩, 1, 1⟩] ∧
      ((calls overflowingVisits empty).filterMap Call.allotted?).map Int32.toInt =
        [1, 2, 3, 4] := by
  have hservices : ∀ op ∈ overflowingVisits, op.movesPoints = false := by decide
  have hcreated : (serve overflowingVisits empty).created = 4 := by decide
  have hfits : (serve overflowingVisits empty).created < 2147483647 := by
    rw [hcreated]
    decide
  obtain ⟨hsound, -, -, hallotted⟩ := integrity_kept overflowingVisits hservices hfits
  rw [hcreated] at hallotted
  exact ⟨hsound, by decide, hallotted⟩

end Memory

end Loyalty
