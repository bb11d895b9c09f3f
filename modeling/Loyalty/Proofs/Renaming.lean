import Loyalty.Proofs.Likeness
import Loyalty.Store.Keys

/-!
# Renamings

Two stores that enter the same things give each of them a pair of identifiers. A renaming keeps
these pairs, for each table those of the latest entry first. It is a bijection that keeps the order
where the pairs of each table rise together, and it covers two stores where it has a pair for
every identifier that either has given out.
-/

namespace Loyalty

/-- Identifiers that no pair tells apart: both of the same pair, or both of none. -/
def Untold {κ : Type} (pairs : List (κ × κ)) (i j : κ) : Prop := ∀ p ∈ pairs, p.1 = i ↔ p.2 = j

/-- Each pair is above all pairs before it, which are behind it in the list, on both sides. -/
def Rising {κ : Type} [Ranked κ] (pairs : List (κ × κ)) : Prop :=
  pairs.Pairwise fun p q => Ranked.rank q.1 < Ranked.rank p.1 ∧ Ranked.rank q.2 < Ranked.rank p.2

section Rising

variable {κ : Type} [Ranked κ] {pairs : List (κ × κ)} {p q : κ × κ}

theorem Rising.rank_lt_iff (h : Rising pairs) (hp : p ∈ pairs) (hq : q ∈ pairs) :
    Ranked.rank p.1 < Ranked.rank q.1 ↔ Ranked.rank p.2 < Ranked.rank q.2 := by
  induction pairs with
  | nil => exact absurd hp List.not_mem_nil
  | cons r pairs ih =>
    obtain ⟨hr, hrest⟩ := List.pairwise_cons.1 h
    rcases List.mem_cons.1 hp with hpr | hp
    · rcases List.mem_cons.1 hq with hqr | hq
      · rw [hpr, hqr]
        exact iff_of_false (Int.lt_irrefl _) (Int.lt_irrefl _)
      · have := hr q hq
        subst hpr
        omega
    · rcases List.mem_cons.1 hq with hqr | hq
      · have := hr p hp
        subst hqr
        omega
      · exact ih hrest hp hq

theorem Rising.eq_iff (h : Rising pairs) (hp : p ∈ pairs) (hq : q ∈ pairs) :
    p.1 = q.1 ↔ p.2 = q.2 := by
  have hbelow := h.rank_lt_iff hp hq
  have habove := h.rank_lt_iff hq hp
  constructor
  · intro hpq
    rw [hpq] at hbelow habove
    apply Ranked.rank_injective
    omega
  · intro hpq
    rw [hpq] at hbelow habove
    apply Ranked.rank_injective
    omega

/-- The pair of two identifiers tells neither of them from the other. -/
theorem Rising.untold (h : Rising pairs) {i j : κ} (hij : (i, j) ∈ pairs) : Untold pairs i j :=
  fun _ hp => h.eq_iff hp hij

end Rising

def allocated : Nat → List Amount
  | 0 => []
  | n + 1 => Int32.ofNat (n + 1) :: allocated n

theorem length_allocated (n : Nat) : (allocated n).length = n := by
  induction n with
  | zero => rfl
  | succ n ih => rw [allocated, List.length_cons, ih]

theorem toInt_ofNat {n : Nat} (h : n ≤ 2147483647) : (Int32.ofNat n).toInt = n :=
  Int32.toInt_ofNat_of_lt (by simp; omega)

theorem le_of_mem_allocated {n : Nat} (hn : n ≤ 2147483647) {a : Amount} (h : a ∈ allocated n) :
    a.toInt ≤ n := by
  induction n with
  | zero => exact absurd h List.not_mem_nil
  | succ n ih =>
    rcases List.mem_cons.1 h with rfl | h
    · exact Int.le_of_eq (toInt_ofNat hn)
    · have := ih (by omega) h
      omega

/-- The next identifiers of two sequences make a pair above those of earlier ones. -/
theorem Rising.cons_next {κ : Type} [Ranked κ] (value : κ → Amount)
    (hvalue : ∀ k : κ, Ranked.rank k = (value k).toInt) {pairs : List (κ × κ)} {m n : Nat}
    (h : Rising pairs) (hleft : ∀ p ∈ pairs, value p.1 ∈ allocated m)
    (hright : (pairs.map fun p => value p.2) = allocated n) (hm : m < 2147483647) (hn : n ≤ m)
    {i j : κ} (hi : value i = Int32.ofNat (m + 1)) (hj : value j = Int32.ofNat (n + 1)) :
    Rising ((i, j) :: pairs) := by
  refine List.pairwise_cons.2 ⟨?_, h⟩
  intro p hp
  have hp' : value p.2 ∈ allocated n := hright ▸ List.mem_map.2 ⟨p, hp, rfl⟩
  have hbelow := le_of_mem_allocated (by omega) (hleft p hp)
  have hbelow' := le_of_mem_allocated (by omega) hp'
  simp only [hvalue, hi, hj, toInt_ofNat (show m + 1 ≤ 2147483647 by omega),
    toInt_ofNat (show n + 1 ≤ 2147483647 by omega)]
  omega

structure Renaming where
  users : List (UserId × UserId)
  restaurants : List (RestaurantId × RestaurantId)
  coupons : List (CouponId × CouponId)
  achievements : List (AchievementId × AchievementId)

namespace Renaming

def empty : Renaming := ⟨[], [], [], []⟩

def withUser (ρ : Renaming) (i j : UserId) : Renaming := { ρ with users := (i, j) :: ρ.users }

def withRestaurant (ρ : Renaming) (i j : RestaurantId) : Renaming :=
  { ρ with restaurants := (i, j) :: ρ.restaurants }

def withCoupon (ρ : Renaming) (i j : CouponId) : Renaming :=
  { ρ with coupons := (i, j) :: ρ.coupons }

def withAchievement (ρ : Renaming) (i j : AchievementId) : Renaming :=
  { ρ with achievements := (i, j) :: ρ.achievements }

def learn (ρ : Renaming) : Operation → Except Refusal Reply → Except Refusal Reply → Renaming
  | .register _, .ok (.user a), .ok (.user b) => ρ.withUser a.id b.id
  | .createRestaurant _, .ok (.restaurant a), .ok (.restaurant b) => ρ.withRestaurant a.id b.id
  | .createCoupon _, .ok (.coupon a), .ok (.coupon b) => ρ.withCoupon a.id b.id
  | .createAchievement _, .ok (.achievement a), .ok (.achievement b) =>
    ρ.withAchievement a.id b.id
  | .createCompactAchievement _, .ok (.achievement a), .ok (.achievement b) =>
    ρ.withAchievement a.id b.id
  | _, _, _ => ρ

def pairs (ρ : Renaming) : Likeness where
  users i j := (i, j) ∈ ρ.users
  restaurants i j := (i, j) ∈ ρ.restaurants
  coupons i j := (i, j) ∈ ρ.coupons
  achievements i j := (i, j) ∈ ρ.achievements

/-- Identifiers are alike where they are those of one thing, or both of nothing. -/
def like (ρ : Renaming) : Likeness where
  users := Untold ρ.users
  restaurants := Untold ρ.restaurants
  coupons := Untold ρ.coupons
  achievements := Untold ρ.achievements

structure Rises (ρ : Renaming) : Prop where
  users : Rising ρ.users
  restaurants : Rising ρ.restaurants
  coupons : Rising ρ.coupons
  achievements : Rising ρ.achievements

def issued (ρ : Renaming) : List Amount :=
  ρ.users.map (fun p => p.1.value) ++ (ρ.restaurants.map (fun p => p.1.value) ++
    (ρ.coupons.map (fun p => p.1.value) ++ ρ.achievements.map fun p => p.1.value))

/-- Every identifier that either store has given out is in one pair: those of the first store, up
to the last of its one sequence, and in each table those of the second store. -/
structure Covers (ρ : Renaming) (created lastUser lastRestaurant lastCoupon lastAchievement : Nat) :
    Prop where
  issued : ρ.issued.Perm (allocated created)
  users : (ρ.users.map fun p => p.2.value) = allocated lastUser
  restaurants : (ρ.restaurants.map fun p => p.2.value) = allocated lastRestaurant
  coupons : (ρ.coupons.map fun p => p.2.value) = allocated lastCoupon
  achievements : (ρ.achievements.map fun p => p.2.value) = allocated lastAchievement

variable {ρ σ : Renaming} {l : Likeness}

namespace Rises

variable (h : ρ.Rises)

include h

theorem user_lt_iff {i j i' j' : UserId} (hij : ρ.pairs.users i j) (hij' : ρ.pairs.users i' j') :
    Ranked.rank i < Ranked.rank i' ↔ Ranked.rank j < Ranked.rank j' :=
  h.users.rank_lt_iff (p := (i, j)) (q := (i', j')) hij hij'

theorem restaurant_lt_iff {i j i' j' : RestaurantId} (hij : ρ.pairs.restaurants i j)
    (hij' : ρ.pairs.restaurants i' j') :
    Ranked.rank i < Ranked.rank i' ↔ Ranked.rank j < Ranked.rank j' :=
  h.restaurants.rank_lt_iff (p := (i, j)) (q := (i', j')) hij hij'

theorem coupon_lt_iff {i j i' j' : CouponId} (hij : ρ.pairs.coupons i j)
    (hij' : ρ.pairs.coupons i' j') :
    Ranked.rank i < Ranked.rank i' ↔ Ranked.rank j < Ranked.rank j' :=
  h.coupons.rank_lt_iff (p := (i, j)) (q := (i', j')) hij hij'

theorem achievement_lt_iff {i j i' j' : AchievementId} (hij : ρ.pairs.achievements i j)
    (hij' : ρ.pairs.achievements i' j') :
    Ranked.rank i < Ranked.rank i' ↔ Ranked.rank j < Ranked.rank j' :=
  h.achievements.rank_lt_iff (p := (i, j)) (q := (i', j')) hij hij'

end Rises

theorem pairs_le_withUser (ρ : Renaming) (i j : UserId) : ρ.pairs.Le (ρ.withUser i j).pairs :=
  ⟨List.mem_cons_of_mem _, id, id, id⟩

theorem pairs_le_withRestaurant (ρ : Renaming) (i j : RestaurantId) :
    ρ.pairs.Le (ρ.withRestaurant i j).pairs := ⟨id, List.mem_cons_of_mem _, id, id⟩

theorem pairs_le_withCoupon (ρ : Renaming) (i j : CouponId) :
    ρ.pairs.Le (ρ.withCoupon i j).pairs := ⟨id, id, List.mem_cons_of_mem _, id⟩

theorem pairs_le_withAchievement (ρ : Renaming) (i j : AchievementId) :
    ρ.pairs.Le (ρ.withAchievement i j).pairs := ⟨id, id, id, List.mem_cons_of_mem _⟩

theorem pairs_le_learn (ρ : Renaming) (op : Operation) (left right : Except Refusal Reply) :
    ρ.pairs.Le (ρ.learn op left right).pairs := by
  unfold learn
  split
  · exact ρ.pairs_le_withUser _ _
  · exact ρ.pairs_le_withRestaurant _ _
  · exact ρ.pairs_le_withCoupon _ _
  · exact ρ.pairs_le_withAchievement _ _
  · exact ρ.pairs_le_withAchievement _ _
  · exact ⟨id, id, id, id⟩

/-- More pairs tell more identifiers apart. -/
theorem like_le (h : ρ.pairs.Le σ.pairs) : σ.like.Le ρ.like :=
  ⟨fun hij _ hp => hij _ (h.users hp), fun hij _ hp => hij _ (h.restaurants hp),
    fun hij _ hp => hij _ (h.coupons hp), fun hij _ hp => hij _ (h.achievements hp)⟩

theorem Rises.pairs_le_like (h : ρ.Rises) : ρ.pairs.Le ρ.like :=
  ⟨h.users.untold, h.restaurants.untold, h.coupons.untold, h.achievements.untold⟩

/-- What has a pair is alike, and what is alike is not told apart by a pair. -/
structure Admits (ρ : Renaming) (l : Likeness) : Prop where
  known : ρ.pairs.Le l
  told : l.Le ρ.like

/-- What turns out to be alike in the end is admitted at any time before. -/
theorem Rises.admits (h : σ.Rises) (hle : ρ.pairs.Le σ.pairs) : ρ.Admits σ.like where
  known := hle.trans h.pairs_le_like
  told := like_le hle

theorem rises_empty : empty.Rises :=
  ⟨List.Pairwise.nil, List.Pairwise.nil, List.Pairwise.nil, List.Pairwise.nil⟩

theorem covers_empty : empty.Covers 0 0 0 0 0 := ⟨List.Perm.nil, rfl, rfl, rfl, rfl⟩

section Next

variable {created lastUser lastRestaurant lastCoupon lastAchievement : Nat}

/-- The first store has given out as many identifiers as the other has for all tables. -/
theorem Covers.created_eq
    (h : ρ.Covers created lastUser lastRestaurant lastCoupon lastAchievement) :
    lastUser + (lastRestaurant + (lastCoupon + lastAchievement)) = created := by
  have husers := congrArg List.length h.users
  have hrestaurants := congrArg List.length h.restaurants
  have hcoupons := congrArg List.length h.coupons
  have hachievements := congrArg List.length h.achievements
  have hissued := h.issued.length_eq
  simp only [Renaming.issued, List.length_append, List.length_map, length_allocated] at *
  omega

variable (h : ρ.Covers created lastUser lastRestaurant lastCoupon lastAchievement)
  (hrises : ρ.Rises) (hroom : created < 2147483647)

include h hrises hroom

theorem Covers.withUser :
    (ρ.withUser ⟨Int32.ofNat (created + 1)⟩ ⟨Int32.ofNat (lastUser + 1)⟩).Rises ∧
      (ρ.withUser ⟨Int32.ofNat (created + 1)⟩ ⟨Int32.ofNat (lastUser + 1)⟩).Covers
        (created + 1) (lastUser + 1) lastRestaurant lastCoupon lastAchievement := by
  have hsum := h.created_eq
  refine ⟨{ hrises with users := ?_ }, { h with issued := ?_, users := ?_ }⟩
  · refine Rising.cons_next UserId.value (fun _ => rfl) hrises.users ?_ h.users hroom
      (by omega) rfl rfl
    intro p hp
    exact h.issued.subset (List.mem_append_left _ (List.mem_map_of_mem hp))
  · exact h.issued.cons _
  · exact congrArg (List.cons _) h.users

theorem Covers.withRestaurant :
    (ρ.withRestaurant ⟨Int32.ofNat (created + 1)⟩ ⟨Int32.ofNat (lastRestaurant + 1)⟩).Rises ∧
      (ρ.withRestaurant ⟨Int32.ofNat (created + 1)⟩ ⟨Int32.ofNat (lastRestaurant + 1)⟩).Covers
        (created + 1) lastUser (lastRestaurant + 1) lastCoupon lastAchievement := by
  have hsum := h.created_eq
  refine ⟨{ hrises with restaurants := ?_ }, { h with issued := ?_, restaurants := ?_ }⟩
  · refine Rising.cons_next RestaurantId.value (fun _ => rfl) hrises.restaurants ?_ h.restaurants
      hroom (by omega) rfl rfl
    intro p hp
    exact h.issued.subset (List.mem_append_right _
      (List.mem_append_left _ (List.mem_map_of_mem hp)))
  · exact List.perm_middle.trans (h.issued.cons _)
  · exact congrArg (List.cons _) h.restaurants

theorem Covers.withCoupon :
    (ρ.withCoupon ⟨Int32.ofNat (created + 1)⟩ ⟨Int32.ofNat (lastCoupon + 1)⟩).Rises ∧
      (ρ.withCoupon ⟨Int32.ofNat (created + 1)⟩ ⟨Int32.ofNat (lastCoupon + 1)⟩).Covers
        (created + 1) lastUser lastRestaurant (lastCoupon + 1) lastAchievement := by
  have hsum := h.created_eq
  refine ⟨{ hrises with coupons := ?_ }, { h with issued := ?_, coupons := ?_ }⟩
  · refine Rising.cons_next CouponId.value (fun _ => rfl) hrises.coupons ?_ h.coupons hroom
      (by omega) rfl rfl
    intro p hp
    exact h.issued.subset (List.mem_append_right _
      (List.mem_append_right _ (List.mem_append_left _ (List.mem_map_of_mem hp))))
  · exact ((List.perm_middle.append_left _).trans List.perm_middle).trans (h.issued.cons _)
  · exact congrArg (List.cons _) h.coupons

theorem Covers.withAchievement :
    (ρ.withAchievement ⟨Int32.ofNat (created + 1)⟩ ⟨Int32.ofNat (lastAchievement + 1)⟩).Rises ∧
      (ρ.withAchievement ⟨Int32.ofNat (created + 1)⟩ ⟨Int32.ofNat (lastAchievement + 1)⟩).Covers
        (created + 1) lastUser lastRestaurant lastCoupon (lastAchievement + 1) := by
  have hsum := h.created_eq
  refine ⟨{ hrises with achievements := ?_ }, { h with issued := ?_, achievements := ?_ }⟩
  · refine Rising.cons_next AchievementId.value (fun _ => rfl) hrises.achievements ?_
      h.achievements hroom (by omega) rfl rfl
    intro p hp
    exact h.issued.subset (List.mem_append_right _
      (List.mem_append_right _ (List.mem_append_right _ (List.mem_map_of_mem hp))))
  · exact (((List.perm_middle.append_left _).append_left _).trans
      ((List.perm_middle.append_left _).trans List.perm_middle)).trans (h.issued.cons _)
  · exact congrArg (List.cons _) h.achievements

end Next

end Renaming

end Loyalty
