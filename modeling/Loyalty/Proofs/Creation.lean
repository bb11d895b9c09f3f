import Loyalty.Proofs.Simulation

/-!
# Entries in both stores

What both stores enter is alike up to the identifiers that they give out, and with the pair of these
the renaming covers both stores again.
-/

namespace Loyalty

namespace Simulates

variable {ρ : Renaming} {s : Memory} {t : Relational}

section Enter

variable (h : Simulates ρ s t) (hroom : s.created < 2147483647)

include h hroom

theorem enterUser (u : User) (row : UserRow) (hleft : u.id = ⟨s.nextId⟩)
    (hright : row.id = ⟨Int32.ofNat (t.lastUser + 1)⟩)
    (hrow : row = ⟨row.id, u.name, u.email, u.passwordDigest, u.accountType.code⟩) :
    Simulates (ρ.withUser u.id row.id) { s with created := s.created + 1, users := s.users.put u }
      { t with lastUser := t.lastUser + 1, users := t.users.put row } := by
  have hnext := h.covers.withUser h.rises hroom
  rw [Memory.nextId] at hleft
  rw [← hleft, ← hright] at hnext
  have htables := h.toSameTables.mono (ρ.pairs_le_withUser u.id row.id)
  have hstored : (ρ.withUser u.id row.id).pairs.StoredUser u row := ⟨List.mem_cons_self, hrow⟩
  exact { htables with
    rises := hnext.1
    covers := hnext.2
    users := htables.users.put hstored (samePlace_user hnext.1 hstored) }

theorem enterRestaurant (a b : Restaurant) (hleft : a.id = ⟨s.nextId⟩)
    (hright : b.id = ⟨Int32.ofNat (t.lastRestaurant + 1)⟩) (hrow : b = { a with id := b.id }) :
    Simulates (ρ.withRestaurant a.id b.id)
      { s with created := s.created + 1, restaurants := s.restaurants.put a }
      { t with
        lastRestaurant := t.lastRestaurant + 1, restaurants := t.restaurants.put b } := by
  have hnext := h.covers.withRestaurant h.rises hroom
  rw [Memory.nextId] at hleft
  rw [← hleft, ← hright] at hnext
  have htables := h.toSameTables.mono (ρ.pairs_le_withRestaurant a.id b.id)
  have hsame : (ρ.withRestaurant a.id b.id).pairs.SameRestaurant a b :=
    ⟨List.mem_cons_self, hrow⟩
  exact { htables with
    rises := hnext.1
    covers := hnext.2
    restaurants := htables.restaurants.put hsame (samePlace_restaurant hnext.1 hsame) }

theorem enterCoupon (c : Coupon) (row : CouponRow) (hleft : c.id = ⟨s.nextId⟩)
    (hright : row.id = ⟨Int32.ofNat (t.lastCoupon + 1)⟩)
    (hrestaurant : ρ.pairs.restaurants c.restaurantId row.restaurantId)
    (hrow : row = ⟨row.id, row.restaurantId, c.name, c.description, c.points, c.level,
      c.validity.opens?, c.validity.closes?, c.deleted⟩) :
    Simulates (ρ.withCoupon c.id row.id)
      { s with created := s.created + 1, coupons := s.coupons.put c }
      { t with lastCoupon := t.lastCoupon + 1, coupons := t.coupons.put row } := by
  have hnext := h.covers.withCoupon h.rises hroom
  rw [Memory.nextId] at hleft
  rw [← hleft, ← hright] at hnext
  have htables := h.toSameTables.mono (ρ.pairs_le_withCoupon c.id row.id)
  have hstored : (ρ.withCoupon c.id row.id).pairs.StoredCoupon c row :=
    ⟨List.mem_cons_self, hrestaurant, hrow⟩
  exact { htables with
    rises := hnext.1
    covers := hnext.2
    coupons := htables.coupons.put hstored (samePlace_coupon hnext.1 hstored) }

theorem enterAchievement (a : Achievement) (row : AchievementRow)
    (hleft : a.id = ⟨s.nextId⟩) (hright : row.id = ⟨Int32.ofNat (t.lastAchievement + 1)⟩)
    (hrestaurant : ρ.pairs.restaurants a.restaurantId row.restaurantId)
    (hrow : row = ⟨row.id, row.restaurantId, a.name, a.experience, a.points,
      a.requirement.toJson⟩) :
    Simulates (ρ.withAchievement a.id row.id)
      { s with created := s.created + 1, achievements := s.achievements.put a }
      { t with
        lastAchievement := t.lastAchievement + 1, achievements := t.achievements.put row } := by
  have hnext := h.covers.withAchievement h.rises hroom
  rw [Memory.nextId] at hleft
  rw [← hleft, ← hright] at hnext
  have htables := h.toSameTables.mono (ρ.pairs_le_withAchievement a.id row.id)
  have hstored : (ρ.withAchievement a.id row.id).pairs.StoredAchievement a row :=
    ⟨List.mem_cons_self, hrestaurant, hrow⟩
  refine { htables with
    rises := hnext.1
    covers := hnext.2
    achievements := htables.achievements.put hstored (samePlace_achievement hnext.1 hstored)
    owned := ?_ }
  intro p hp
  by_cases hid : Keyed.key a = p.achievementId
  · rw [← hid, Table.find?_put_self]
    rfl
  · rw [Table.find?_put_of_ne hid]
    exact h.owned p hp

end Enter

/-- The same user is entered by both stores, or by neither, for a conflict. -/
theorem createUser (h : Simulates ρ s t) (input : NewUser)
    (hfits : (Request.createUser input).fits s = true) :
    (∃ e d, s.createUser input = (.error e, s) ∧ t.createUser input = (.error d, t) ∧
      e.kind = .conflict ∧ d.kind = .conflict) ∨
    ∃ a b s' t', s.createUser input = (.ok a, s') ∧ t.createUser input = (.ok b, t') ∧
      b = { a with id := b.id } ∧ Simulates (ρ.withUser a.id b.id) s' t' := by
  have htaken : (s.users.rows.any fun u => u.email == input.email) =
      t.users.rows.any fun u => u.email == input.email :=
    rel_any h.users fun u row hrow => by rw [hrow.2]
  unfold Memory.createUser Relational.createUser
  rw [← htaken]
  split
  · exact Or.inl ⟨_, _, rfl, rfl, rfl, rfl⟩
  · have hentered := h.enterUser (of_decide_eq_true hfits)
      ⟨⟨s.nextId⟩, input.name, input.email, input.passwordDigest, input.accountType⟩
      ⟨⟨Int32.ofNat (t.lastUser + 1)⟩, input.name, input.email, input.passwordDigest,
        input.accountType.code⟩ rfl rfl rfl
    refine Or.inr ⟨_, ⟨⟨Int32.ofNat (t.lastUser + 1)⟩, input.name, input.email,
      input.passwordDigest, input.accountType⟩, _, _, rfl, ?_, rfl, hentered⟩
    dsimp only
    rw [UserRow.read, AccountType.ofCode?_code]

theorem createRestaurant (h : Simulates ρ s t) (input : NewRestaurant)
    (hfits : (Request.createRestaurant input).fits s = true) :
    (t.createRestaurant input).1 =
        { (s.createRestaurant input).1 with id := (t.createRestaurant input).1.id } ∧
      Simulates (ρ.withRestaurant (s.createRestaurant input).1.id (t.createRestaurant input).1.id)
        (s.createRestaurant input).2 (t.createRestaurant input).2 :=
  ⟨rfl, h.enterRestaurant (of_decide_eq_true hfits) _ _ rfl rfl rfl⟩

/-- The same coupon is entered by both stores for restaurants that are alike. -/
theorem createCoupon (h : Simulates ρ s t) {l : Likeness} (hl : ρ.Admits l)
    (input input' : NewCoupon) (hrestaurant : l.restaurants input.restaurantId input'.restaurantId)
    (hinput : input' = { input with restaurantId := input'.restaurantId })
    (hfits : (Request.createCoupon input).fits s = true) :
    ∃ b t', t.createCoupon input' = (.ok b, t') ∧
      b = { (s.createCoupon input).1 with id := b.id, restaurantId := input'.restaurantId } ∧
      Simulates (ρ.withCoupon (s.createCoupon input).1.id b.id) (s.createCoupon input).2 t' := by
  rw [Request.fits, Bool.and_eq_true, decide_eq_true_eq] at hfits
  obtain ⟨hroom, hthere⟩ := hfits
  obtain ⟨hknown, restaurant, hfound⟩ := h.known_restaurant hl hrestaurant hthere
  have hentered := h.enterCoupon hroom
    ⟨⟨s.nextId⟩, input.restaurantId, input.name, input.description, input.points, input.level,
      input.validity, false⟩
    ⟨⟨Int32.ofNat (t.lastCoupon + 1)⟩, input'.restaurantId, input.name, input.description,
      input.points, input.level, input.validity.opens?, input.validity.closes?, false⟩
    rfl rfl hknown rfl
  refine ⟨⟨⟨Int32.ofNat (t.lastCoupon + 1)⟩, input'.restaurantId, input.name, input.description,
    input.points, input.level, input.validity, false⟩, _, ?_, rfl, hentered⟩
  rw [Relational.createCoupon, hfound, hinput]
  dsimp only
  rw [CouponRow.read, Validity.ofEnds?_opens?_closes?]

theorem createAchievement (h : Simulates ρ s t) {l : Likeness} (hl : ρ.Admits l)
    (input input' : NewAchievement)
    (hrestaurant : l.restaurants input.restaurantId input'.restaurantId)
    (hinput : input' = { input with restaurantId := input'.restaurantId })
    (hfits : (Request.createAchievement input).fits s = true) :
    ∃ b t', t.createAchievement input' = (.ok b, t') ∧
      b = { (s.createAchievement input).1 with id := b.id, restaurantId := input'.restaurantId } ∧
      Simulates (ρ.withAchievement (s.createAchievement input).1.id b.id)
        (s.createAchievement input).2 t' := by
  rw [Request.fits, Bool.and_eq_true, decide_eq_true_eq] at hfits
  obtain ⟨hroom, hthere⟩ := hfits
  obtain ⟨hknown, restaurant, hfound⟩ := h.known_restaurant hl hrestaurant hthere
  have hentered := h.enterAchievement hroom
    ⟨⟨s.nextId⟩, input.restaurantId, input.name, input.experience, input.points,
      input.requirement⟩
    ⟨⟨Int32.ofNat (t.lastAchievement + 1)⟩, input'.restaurantId, input.name, input.experience,
      input.points, input.requirement.toJson⟩
    rfl rfl hknown rfl
  refine ⟨⟨⟨Int32.ofNat (t.lastAchievement + 1)⟩, input'.restaurantId, input.name,
    input.experience, input.points, input.requirement⟩, _, ?_, rfl, hentered⟩
  rw [Relational.createAchievement, hfound, hinput]
  dsimp only
  rw [AchievementRow.read, Requirement.ofJson_toJson]

end Simulates

end Loyalty
