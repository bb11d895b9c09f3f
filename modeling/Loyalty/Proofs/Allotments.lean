import Loyalty.Proofs.Integrity
import Loyalty.Proofs.World

/-!
# Identifiers that were given out

One sequence of identifiers serves all tables. Along every log, whoever made the requests, the
identifiers that were given out lie below the next one, and whatever is stored has one of them. So
the next identifier is new: no row has it, and none had it that is deleted by now.
-/

namespace Loyalty

def Exchange.allotted? : Exchange → Option Amount
  | ⟨.createUser _, .ok user⟩ => some user.id.value
  | ⟨.createRestaurant _, .ok restaurant⟩ => some restaurant.id.value
  | ⟨.createCoupon _, .ok coupon⟩ => some coupon.id.value
  | ⟨.createAchievement _, .ok achievement⟩ => some achievement.id.value
  | _ => none

def allottedIn (past : List Exchange) : List Amount := past.filterMap Exchange.allotted?

theorem mem_allottedIn_cons {past : List Exchange} {x : Exchange} {i : Amount} :
    i ∈ allottedIn (x :: past) ↔ x.allotted? = some i ∨ i ∈ allottedIn past := by
  simp only [allottedIn, List.mem_filterMap, List.mem_cons, exists_eq_or_imp]

theorem Exchange.allotted?_eq_none {x : Exchange} (h : x.isEffective = false) :
    x.allotted? = none := by
  unfold allotted?
  split
  · cases h
  · cases h
  · cases h
  · cases h
  · rfl

theorem Memory.Change.allots {s s' : Memory} {x : Exchange} (h : s.Change x s') :
    s.Allots x.allotted? s' := by
  cases h with
  | nothing h => exact Or.inr ⟨Exchange.allotted?_eq_none h, rfl⟩
  | createUser _ huser =>
    subst huser
    exact Or.inl ⟨rfl, rfl⟩
  | createRestaurant hrestaurant =>
    subst hrestaurant
    exact Or.inl ⟨rfl, rfl⟩
  | createCoupon hcoupon =>
    subst hcoupon
    exact Or.inl ⟨rfl, rfl⟩
  | createAchievement hachievement =>
    subst hachievement
    exact Or.inl ⟨rfl, rfl⟩
  | _ => exact Or.inr ⟨rfl, rfl⟩

/-- The identifiers that were given out are counted by the creations, and what is stored has one of
them. -/
structure Numbered (past : List Exchange) (s : Memory) : Prop where
  bounded : ∀ i ∈ allottedIn past, i.toInt ≤ s.created
  stored : ∀ i ∈ s.identifiers, i ∈ allottedIn past

namespace Numbered

variable {past : List Exchange} {s s' : Memory} {x : Exchange}

theorem empty : Numbered [] .empty :=
  ⟨fun _ hi => absurd hi List.not_mem_nil, fun _ hi => absurd hi List.not_mem_nil⟩

theorem nextId_not_mem (h : Numbered past s) (hroom : s.created < 2147483647) :
    s.nextId ∉ allottedIn past := by
  intro hnext
  have hle := h.bounded _ hnext
  rw [Memory.toInt_nextId hroom] at hle
  omega

theorem step (h : Numbered past s) (hchange : s.Change x s') (hroom : s.created < 2147483647) :
    Numbered (x :: past) s' := by
  have hnew : s.nextId ∉ s.identifiers :=
    fun hnext => h.nextId_not_mem hroom (h.stored _ hnext)
  have hgrows := hchange.created_le
  refine ⟨?_, ?_⟩
  · intro i hi
    rcases mem_allottedIn_cons.1 hi with hnow | hbefore
    · rcases hchange.allots with ⟨hnext, hcreated⟩ | ⟨hnone, -⟩
      · cases hnow.symm.trans hnext
        rw [Memory.toInt_nextId hroom]
        omega
      · cases hnow.symm.trans hnone
    · have := h.bounded i hbefore
      omega
  · intro i hi
    rw [mem_allottedIn_cons]
    -- What enters a table has the next identifier, which the same exchange has given out.
    rcases hchange.identifiers hnew with ⟨hcreated, hperm⟩ | ⟨-, hsub⟩
    · rcases List.mem_cons.1 (hperm.mem_iff.1 hi) with rfl | hi
      · rcases hchange.allots with ⟨hnext, -⟩ | ⟨-, hsame⟩
        · exact Or.inl hnext
        · omega
      · exact Or.inr (h.stored i hi)
    · exact Or.inr (h.stored i (hsub.subset hi))

end Numbered

theorem Logged.numbered {direct : Prop} {past : List Exchange} {s : Memory}
    (h : Logged direct past s) (hfits : s.created < 2147483647) : Numbered past s := by
  induction h with
  | empty => exact .empty
  | answered _ _ hanswer ih =>
    have hroom := Nat.lt_of_le_of_lt hanswer.change.created_le hfits
    exact (ih hroom).step hanswer.change hroom

namespace World

def Unused (w : World) (i : Amount) : Prop :=
  i ∉ w.store.identifiers ∧ i ∉ allottedIn w.exchanges

theorem unused_nextId (turns : List Turn) (hfits : (run turns).store.created < 2147483647) :
    (run turns).Unused (run turns).store.nextId := by
  have hlogged : Logged True (run turns).exchanges (run turns).store :=
    logged_run turns fun _ _ _ => trivial
  have hnumbered := hlogged.numbered hfits
  have hnew := hnumbered.nextId_not_mem hfits
  exact ⟨fun hstored => hnew (hnumbered.stored _ hstored), hnew⟩

end World

end Loyalty
