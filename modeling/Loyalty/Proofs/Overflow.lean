import Loyalty.Store.Relational

/-!
# Rewards that do not fit

The relational store keeps balances in columns that are wider than an amount. A credit reads what it
wrote and is undone where that fails, so it is exact or without effect. A completion writes the same
columns and does not read them. Where the sum fits an amount, or the columns may not be written at
all, it is exact or without effect too. Where the sum does not fit, the row is gone and the balance
that is left cannot be read.
-/

namespace Loyalty

namespace BalanceRow

def credited (row : BalanceRow) (points experience : Amount) : BalanceRow :=
  { row with
    points := row.points + points.toInt,
    experience := row.experience + experience.toInt }

structure Fits (row : BalanceRow) : Prop where
  points : -2147483648 ≤ row.points ∧ row.points ≤ 2147483647
  experience : -2147483648 ≤ row.experience ∧ row.experience ≤ 2147483647

instance (row : BalanceRow) : Decidable row.Fits :=
  decidable_of_iff ((-2147483648 ≤ row.points ∧ row.points ≤ 2147483647) ∧
    -2147483648 ≤ row.experience ∧ row.experience ≤ 2147483647)
    ⟨fun h => ⟨h.1, h.2⟩, fun h => ⟨h.points, h.experience⟩⟩

theorem readColumn_eq_ok_iff {column : BalanceColumn} {value : Int} {a : Amount} :
    readColumn column value = .ok a ↔ a.toInt = value := by
  rw [readColumn, ← Amount.ofInt?_eq_some_iff]
  cases Amount.ofInt? value <;> simp

theorem exists_readColumn (column : BalanceColumn) {value : Int}
    (h : -2147483648 ≤ value ∧ value ≤ 2147483647) :
    ∃ a : Amount, readColumn column value = .ok a :=
  ⟨Int32.ofInt value, readColumn_eq_ok_iff.2 (Int32.toInt_ofInt_of_le (by omega) (by omega))⟩

theorem exists_unreadable (column : BalanceColumn) {value : Int}
    (h : ¬ (-2147483648 ≤ value ∧ value ≤ 2147483647)) :
    ∃ fault, readColumn column value = .error (.unreadableBalance column fault) := by
  have hnone : Amount.ofInt? value = none := Amount.ofInt?_eq_none_iff.2 (by omega)
  rw [readColumn, hnone]
  exact ⟨_, rfl⟩

theorem read_of_fits {row : BalanceRow} (h : row.Fits) :
    ∃ b, row.read = .ok b ∧ b.points.toInt = row.points ∧ b.experience.toInt = row.experience := by
  obtain ⟨points, hpoints⟩ := exists_readColumn .points h.points
  obtain ⟨experience, hexperience⟩ := exists_readColumn .experience h.experience
  refine ⟨⟨row.userId, row.restaurantId, points, experience⟩, ?_,
    readColumn_eq_ok_iff.1 hpoints, readColumn_eq_ok_iff.1 hexperience⟩
  rw [read, hpoints, hexperience]
  rfl

theorem read_of_not_fits {row : BalanceRow} (h : ¬ row.Fits) :
    ∃ column fault, row.read = .error (.unreadableBalance column fault) := by
  by_cases hpoints : -2147483648 ≤ row.points ∧ row.points ≤ 2147483647
  · have hexperience : ¬ (-2147483648 ≤ row.experience ∧ row.experience ≤ 2147483647) :=
      fun hexperience => h ⟨hpoints, hexperience⟩
    obtain ⟨points, hpoints⟩ := exists_readColumn .points hpoints
    obtain ⟨fault, hfault⟩ := exists_unreadable .experience hexperience
    refine ⟨.experience, fault, ?_⟩
    rw [read, hpoints, hfault]
    rfl
  · obtain ⟨fault, hfault⟩ := exists_unreadable .points hpoints
    refine ⟨.points, fault, ?_⟩
    rw [read, hfault]
    rfl

end BalanceRow

namespace Relational

/-- The columns of a balance; one that is not stored is empty. -/
def held (userId : UserId) (restaurantId : RestaurantId) (s : Relational) : BalanceRow :=
  (s.balances.find? (userId, restaurantId)).getD ⟨userId, restaurantId, 0, 0⟩

/-- A balance that is not stored and may not be, because its user or its restaurant is missing. -/
def Unreferenced (userId : UserId) (restaurantId : RestaurantId) (s : Relational) : Prop :=
  s.balances.find? (userId, restaurantId) = none ∧
    (s.users.find? userId = none ∨ s.restaurants.find? restaurantId = none)

/-- The balance of a pair is read as what was held before together with a credit. -/
def ReadsCredited (s s' : Relational) (userId : UserId) (restaurantId : RestaurantId)
    (points experience : Amount) : Prop :=
  ∃ b, s'.findBalance userId restaurantId = .ok (some b) ∧
    b.points.toInt = (s.held userId restaurantId).points + points.toInt ∧
    b.experience.toInt = (s.held userId restaurantId).experience + experience.toInt

/-- The completion of a row is exact, or it has no effect. -/
def ExactOrKept (s : Relational) (row : Progress) (reward : Reward) : Prop :=
  let result := s.complete row reward
  result.1 = .ok true ∧
      result.2.progress.find? (row.userId, row.achievementId) = none ∧
      s.ReadsCredited result.2 row.userId reward.restaurantId reward.points reward.experience ∨
    (∃ e, result.1 = .error e) ∧
      result.2.progress.find? (row.userId, row.achievementId) =
        s.progress.find? (row.userId, row.achievementId) ∧
      result.2.balances.find? (row.userId, reward.restaurantId) =
        s.balances.find? (row.userId, reward.restaurantId)

variable {s : Relational} {userId : UserId} {restaurantId : RestaurantId}

theorem key_held : Keyed.key (s.held userId restaurantId) = (userId, restaurantId) := by
  rw [held]
  cases hfound : s.balances.find? (userId, restaurantId) with
  | none => rfl
  | some row => exact (Table.find?_eq_some_iff.1 hfound).2

theorem key_credited (points experience : Amount) :
    Keyed.key ((s.held userId restaurantId).credited points experience) = (userId, restaurantId) :=
  key_held

theorem creditedRow_of_unreferenced (points experience : Amount)
    (h : s.Unreferenced userId restaurantId) :
    s.creditedRow userId restaurantId points experience = .error .missingReference := by
  obtain ⟨hbalance, hmissing⟩ := h
  rw [creditedRow, hbalance]
  rcases hmissing with husers | hrestaurants
  · rw [husers]
  · rw [hrestaurants]
    cases s.users.find? userId <;> rfl

theorem creditedRow_of_referenced (points experience : Amount)
    (h : ¬ s.Unreferenced userId restaurantId) :
    s.creditedRow userId restaurantId points experience =
      .ok ((s.held userId restaurantId).credited points experience) := by
  rw [creditedRow, held]
  cases hbalance : s.balances.find? (userId, restaurantId) with
  | some row => rfl
  | none =>
    cases husers : s.users.find? userId with
    | none => exact absurd ⟨hbalance, Or.inl husers⟩ h
    | some user =>
      cases hrestaurants : s.restaurants.find? restaurantId with
      | none => exact absurd ⟨hbalance, Or.inr hrestaurants⟩ h
      | some restaurant => simp [BalanceRow.credited]

theorem held_put {row : BalanceRow} (hkey : Keyed.key row = (userId, restaurantId))
    {s' : Relational} (hbalances : s'.balances = s.balances.put row) :
    s'.held userId restaurantId = row := by
  rw [held, hbalances, ← hkey, Table.find?_put_self]
  rfl

theorem findBalance_put {row : BalanceRow} (hkey : Keyed.key row = (userId, restaurantId))
    {s' : Relational} (hbalances : s'.balances = s.balances.put row) :
    s'.findBalance userId restaurantId = row.read.map some := by
  rw [findBalance, hbalances, ← hkey, Table.find?_put_self]
  rfl

/-- A credit is exact, or it has no effect on the store at all. -/
theorem credit_exact_or_unchanged (points experience : Amount) :
    let result := s.credit userId restaurantId points experience
    (∃ b, result.1 = .ok b) ∧
        s.ReadsCredited result.2 userId restaurantId points experience ∨
      (∃ e, result.1 = .error e) ∧ result.2 = s := by
  dsimp only
  by_cases hmissing : s.Unreferenced userId restaurantId
  · rw [credit, creditedRow_of_unreferenced points experience hmissing]
    exact Or.inr ⟨⟨_, rfl⟩, rfl⟩
  · rw [credit, creditedRow_of_referenced points experience hmissing]
    dsimp only [commitBalance]
    by_cases hfits : ((s.held userId restaurantId).credited points experience).Fits
    · obtain ⟨b, hread, hpoints, hexperience⟩ := BalanceRow.read_of_fits hfits
      rw [hread]
      refine Or.inl ⟨⟨b, rfl⟩, b, ?_, hpoints, hexperience⟩
      rw [findBalance_put (key_credited _ _) rfl, hread]
      rfl
    · obtain ⟨column, fault, hread⟩ := BalanceRow.read_of_not_fits hfits
      rw [hread]
      exact Or.inr ⟨⟨_, rfl⟩, rfl⟩

theorem complete_full {row stored : Progress} {reward : Reward}
    (hfound : s.progress.find? (row.userId, row.achievementId) = some stored)
    (hfull : stored.progress = stored.total)
    (hreferenced : ¬ s.Unreferenced row.userId reward.restaurantId) :
    s.complete row reward = (.ok true, { s with
      progress := s.progress.erase (row.userId, row.achievementId),
      balances := s.balances.put ((s.held row.userId reward.restaurantId).credited reward.points
        reward.experience) }) := by
  rw [complete, hfound]
  dsimp only
  rw [if_pos hfull, creditedRow_of_referenced _ _ hreferenced]

theorem complete_unreferenced {row stored : Progress} {reward : Reward}
    (hfound : s.progress.find? (row.userId, row.achievementId) = some stored)
    (hfull : stored.progress = stored.total)
    (hmissing : s.Unreferenced row.userId reward.restaurantId) :
    s.complete row reward = (.error .missingReference, s) := by
  rw [complete, hfound]
  dsimp only
  rw [if_pos hfull, creditedRow_of_unreferenced _ _ hmissing]

theorem exactOrKept_of_fits {row stored : Progress} {reward : Reward}
    (hfound : s.progress.find? (row.userId, row.achievementId) = some stored)
    (hfull : stored.progress = stored.total)
    (h : s.Unreferenced row.userId reward.restaurantId ∨
      ((s.held row.userId reward.restaurantId).credited reward.points reward.experience).Fits) :
    s.ExactOrKept row reward := by
  unfold ExactOrKept
  by_cases hmissing : s.Unreferenced row.userId reward.restaurantId
  · rw [complete_unreferenced hfound hfull hmissing]
    exact Or.inr ⟨⟨_, rfl⟩, rfl, rfl⟩
  · obtain ⟨b, hread, hpoints, hexperience⟩ :=
      BalanceRow.read_of_fits (h.resolve_left hmissing)
    rw [complete_full hfound hfull hmissing]
    refine Or.inl ⟨rfl, Table.find?_erase_self _ _, b, ?_, hpoints, hexperience⟩
    rw [findBalance_put (key_credited _ _) rfl, hread]
    rfl

/-- A reward that does not fit is written and cannot be read. -/
theorem complete_overflows {row stored : Progress} {reward : Reward}
    (hfound : s.progress.find? (row.userId, row.achievementId) = some stored)
    (hfull : stored.progress = stored.total)
    (hreferenced : ¬ s.Unreferenced row.userId reward.restaurantId)
    (h : ¬ ((s.held row.userId reward.restaurantId).credited reward.points
      reward.experience).Fits) :
    let result := s.complete row reward
    result.1 = .ok true ∧
      result.2.progress.find? (row.userId, row.achievementId) = none ∧
      result.2.held row.userId reward.restaurantId =
        (s.held row.userId reward.restaurantId).credited reward.points reward.experience ∧
      ∃ column fault, result.2.findBalance row.userId reward.restaurantId =
        .error (.unreadableBalance column fault) := by
  dsimp only
  rw [complete_full hfound hfull hreferenced]
  obtain ⟨column, fault, hread⟩ := BalanceRow.read_of_not_fits h
  refine ⟨rfl, Table.find?_erase_self _ _, ?_, column, fault, ?_⟩
  · exact held_put (key_credited _ _) rfl
  · rw [findBalance_put (key_credited _ _) rfl, hread]
    rfl

theorem not_exactOrKept_of_overflow (row : Progress) (reward : Reward) {stored : Progress}
    (hfound : s.progress.find? (row.userId, row.achievementId) = some stored)
    (hfull : stored.progress = stored.total)
    (hreferenced : ¬ s.Unreferenced row.userId reward.restaurantId)
    (h : ¬ ((s.held row.userId reward.restaurantId).credited reward.points
      reward.experience).Fits) :
    ¬ s.ExactOrKept row reward := by
  obtain ⟨hpaid, -, -, column, fault, hunreadable⟩ := complete_overflows hfound hfull hreferenced h
  rintro (⟨-, -, b, hread, -⟩ | ⟨⟨e, herror⟩, -⟩)
  · rw [hunreadable] at hread
    cases hread
  · rw [hpaid] at herror
    cases herror

/-- The completion of a full row is exact or without effect just where the columns may not be
written, or hold amounts afterwards. Everywhere else it succeeds, takes the row, and leaves the
exact sum in columns that cannot be read. A credit of the same reward is exact or without effect
everywhere. -/
theorem complete_exact_iff (row : Progress) (reward : Reward) {stored : Progress}
    (hfound : s.progress.find? (row.userId, row.achievementId) = some stored)
    (hfull : stored.progress = stored.total) :
    (s.ExactOrKept row reward ↔
      s.Unreferenced row.userId reward.restaurantId ∨
        ((s.held row.userId reward.restaurantId).credited reward.points
          reward.experience).Fits) ∧
    (¬ s.ExactOrKept row reward →
      let result := s.complete row reward
      result.1 = .ok true ∧
        result.2.progress.find? (row.userId, row.achievementId) = none ∧
        result.2.held row.userId reward.restaurantId =
          (s.held row.userId reward.restaurantId).credited reward.points reward.experience ∧
        ∃ column fault, result.2.findBalance row.userId reward.restaurantId =
          .error (.unreadableBalance column fault)) ∧
    let credit := s.credit row.userId reward.restaurantId reward.points reward.experience
    ((∃ b, credit.1 = .ok b) ∧
        s.ReadsCredited credit.2 row.userId reward.restaurantId reward.points reward.experience ∨
      (∃ e, credit.1 = .error e) ∧ credit.2 = s) := by
  refine and_assoc.1 ⟨?_, credit_exact_or_unchanged reward.points reward.experience⟩
  by_cases h : s.Unreferenced row.userId reward.restaurantId ∨
      ((s.held row.userId reward.restaurantId).credited reward.points reward.experience).Fits
  · have hexact := exactOrKept_of_fits hfound hfull h
    exact ⟨⟨fun _ => h, fun _ => hexact⟩, fun hlost => absurd hexact hlost⟩
  · obtain ⟨hreferenced, hover⟩ := not_or.1 h
    have hlost := not_exactOrKept_of_overflow row reward hfound hfull hreferenced hover
    exact ⟨⟨fun hexact => absurd hexact hlost, fun hcase => absurd hcase h⟩,
      fun _ => complete_overflows hfound hfull hreferenced hover⟩

def answerAll : List Request → Relational → Relational
  | [], s => s
  | r :: rs, s => answerAll rs (handle r s).2

/-- A visit that fills its row, made by a user who holds some points. -/
def filledRow (points : Amount) : List Request :=
  [.createUser ⟨"Ada", "ada@home", "digest", .customer⟩,
    .createRestaurant ⟨"Tea House", "Main Street"⟩,
    .createAchievement ⟨⟨1⟩, "Welcome", 5, 10, ⟨.visit 1, .indefinite⟩⟩,
    .credit ⟨1⟩ ⟨1⟩ points 0, .createProgress ⟨1⟩ ⟨1⟩ 1, .increment ⟨1⟩ ⟨1⟩]

/-- With as many points as fit, the reward is paid and the balance is lost. -/
theorem filledRow_overflows :
    ¬ ∀ (requests : List Request) (row : Progress) (reward : Reward),
      (answerAll requests empty).progress.find? (row.userId, row.achievementId) = some row →
      row.progress = row.total → 0 ≤ reward.points → 0 ≤ reward.experience →
        (answerAll requests empty).ExactOrKept row reward := by
  intro hclaim
  have hfound : (answerAll (filledRow 2147483647) empty).progress.find? (⟨1⟩, ⟨1⟩) =
      some ⟨⟨1⟩, ⟨1⟩, 1, 1⟩ := by decide
  have hstored : ((answerAll (filledRow 2147483647) empty).balances.find? (⟨1⟩, ⟨1⟩)).isSome =
      true := by decide
  have hreferenced : ¬ (answerAll (filledRow 2147483647) empty).Unreferenced ⟨1⟩ ⟨1⟩ := by
    rintro ⟨hnone, -⟩
    rw [hnone] at hstored
    cases hstored
  have hover : ¬ (((answerAll (filledRow 2147483647) empty).held ⟨1⟩ ⟨1⟩).credited 10 5).Fits := by
    decide
  replace hclaim := hclaim (filledRow 2147483647) ⟨⟨1⟩, ⟨1⟩, 1, 1⟩ ⟨⟨1⟩, 10, 5⟩
  generalize answerAll (filledRow 2147483647) empty = s at *
  exact not_exactOrKept_of_overflow ⟨⟨1⟩, ⟨1⟩, 1, 1⟩ ⟨⟨1⟩, 10, 5⟩ hfound rfl hreferenced hover
    (hclaim hfound rfl (by decide) (by decide))

theorem filledRow_exact :
    (answerAll (filledRow 20) empty).ExactOrKept ⟨⟨1⟩, ⟨1⟩, 1, 1⟩ ⟨⟨1⟩, 10, 5⟩ := by
  have hfound : (answerAll (filledRow 20) empty).progress.find? (⟨1⟩, ⟨1⟩) =
      some ⟨⟨1⟩, ⟨1⟩, 1, 1⟩ := by decide
  have hfits : (((answerAll (filledRow 20) empty).held ⟨1⟩ ⟨1⟩).credited 10 5).Fits := by decide
  generalize answerAll (filledRow 20) empty = s at *
  exact (complete_exact_iff ⟨⟨1⟩, ⟨1⟩, 1, 1⟩ ⟨⟨1⟩, 10, 5⟩ hfound rfl).1.2 (Or.inr hfits)

end Relational

end Loyalty
