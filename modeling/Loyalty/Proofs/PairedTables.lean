import Loyalty.Store.Table
import Mathlib.Data.List.Forall2

/-!
# Tables side by side

Two tables of which the rows are related one by one, in their order. Rows that are found, removed or
put in place on both sides leave the tables related, where their keys stand alike to those of all
related rows.
-/

namespace Loyalty

theorem rel_find? {α β : Type} {R : α → β → Prop} {p : α → Bool} {q : β → Bool} {as : List α}
    {bs : List β} (h : List.Forall₂ R as bs) (hpq : ∀ a b, R a b → p a = q b) :
    Option.Rel R (as.find? p) (bs.find? q) := by
  induction h with
  | nil => exact .none
  | @cons a b as bs hab _ ih =>
    rw [List.find?_cons, List.find?_cons, hpq a b hab]
    cases q b with
    | true => exact .some hab
    | false => exact ih

theorem rel_any {α β : Type} {R : α → β → Prop} {p : α → Bool} {q : β → Bool} {as : List α}
    {bs : List β} (h : List.Forall₂ R as bs) (hpq : ∀ a b, R a b → p a = q b) :
    as.any p = bs.any q := by
  induction h with
  | nil => rfl
  | @cons a b as bs hab _ ih => rw [List.any_cons, List.any_cons, hpq a b hab, ih]

theorem rel_cases {α β : Type} {R : α → β → Prop} {x : Option α} {y : Option β}
    (h : Option.Rel R x y) : x = none ∧ y = none ∨ ∃ a b, x = some a ∧ y = some b ∧ R a b := by
  cases h with
  | none => exact Or.inl ⟨rfl, rfl⟩
  | some h => exact Or.inr ⟨_, _, rfl, rfl, h⟩

theorem rel_mono {α β : Type} {R S : α → β → Prop} {x : Option α} {y : Option β}
    (h : Option.Rel R x y) (hRS : ∀ a b, R a b → S a b) : Option.Rel S x y := by
  cases h with
  | none => exact .none
  | some h => exact .some (hRS _ _ h)

variable {ρ σ κ : Type} [Ranked κ] [Keyed ρ κ] [Keyed σ κ] {R : ρ → σ → Prop}

/-- Related rows have either both keys or neither. -/
def SameKey (R : ρ → σ → Prop) (k l : κ) : Prop :=
  ∀ a b, R a b → (Keyed.key a = k ↔ Keyed.key b = l)

theorem SameKey.place_iff {k l : κ} (h : SameKey R k l) {a : ρ} {b : σ} (hab : R a b) :
    place a = Ranked.rank k ↔ place b = Ranked.rank l := by
  constructor
  · intro ha
    rw [place, (h a b hab).1 (Ranked.rank_injective ha)]
  · intro hb
    rw [place, (h a b hab).2 (Ranked.rank_injective hb)]

/-- Two rows come before, at or after related rows alike. -/
def SamePlace (R : ρ → σ → Prop) (a : ρ) (b : σ) : Prop :=
  ∀ c d, R c d → (place a < place c ↔ place b < place d) ∧ (place c < place a ↔ place d < place b)

theorem rel_placeRow {a : ρ} {b : σ} {as : List ρ} {bs : List σ} (h : List.Forall₂ R as bs)
    (hab : R a b) (hplace : SamePlace R a b) :
    List.Forall₂ R (placeRow a as) (placeRow b bs) := by
  induction h with
  | nil => exact .cons hab .nil
  | @cons c d as bs hcd hrest ih =>
    obtain ⟨hbefore, hafter⟩ := hplace c d hcd
    by_cases hac : place a < place c
    · rw [placeRow, placeRow, if_pos hac, if_pos (hbefore.1 hac)]
      exact .cons hab (.cons hcd hrest)
    · rw [placeRow, placeRow, if_neg hac, if_neg fun hbd => hac (hbefore.2 hbd)]
      by_cases hca : place c < place a
      · rw [if_pos hca, if_pos (hafter.1 hca)]
        exact .cons hcd ih
      · rw [if_neg hca, if_neg fun hdb => hca (hafter.2 hdb)]
        exact .cons hab hrest

namespace Table

def Pairs (t : Table ρ) (R : ρ → σ → Prop) (u : Table σ) : Prop := List.Forall₂ R t.rows u.rows

variable {t : Table ρ} {u : Table σ}

theorem filter_eq_self {p : ρ → Bool} (h : ∀ r ∈ t.rows, p r = true) : t.filter p = t :=
  ext_rows (List.filter_eq_self.2 h)

theorem erase_eq_self {k : κ} (h : t.find? k = none) : t.erase k = t := by
  apply filter_eq_self
  intro r hr
  rw [bne_iff_ne]
  exact fun hrank => find?_eq_none_iff.1 h r hr (Ranked.rank_injective hrank)

namespace Pairs

theorem find? {k l : κ} (h : t.Pairs R u) (hkey : SameKey R k l) :
    Option.Rel R (t.find? k) (u.find? l) := by
  apply rel_find? h
  intro a b hab
  rw [Bool.eq_iff_iff, beq_iff_eq, beq_iff_eq]
  exact hkey.place_iff hab

/-- A row that is found on one side is found on the other, under the other key. -/
theorem known {k l : κ} (h : t.Pairs R u) (hkey : SameKey R k l) (hthere : (t.find? k).isSome) :
    ∃ a b, R a b ∧ Keyed.key a = k ∧ Keyed.key b = l ∧ u.find? (Keyed.key b) = some b := by
  rcases rel_cases (h.find? hkey) with ⟨ht, -⟩ | ⟨a, b, ht, hu, hab⟩
  · rw [ht] at hthere
    cases hthere
  · have hb : Keyed.key b = l := (find?_eq_some_iff.1 hu).2
    exact ⟨a, b, hab, (find?_eq_some_iff.1 ht).2, hb, by rw [hb, hu]⟩

theorem put {a : ρ} {b : σ} (h : t.Pairs R u) (hab : R a b) (hplace : SamePlace R a b) :
    (t.put a).Pairs R (u.put b) := rel_placeRow h hab hplace

theorem filter {p : ρ → Bool} {q : σ → Bool} (h : t.Pairs R u) (hpq : ∀ a b, R a b → p a = q b) :
    (t.filter p).Pairs R (u.filter q) := by
  refine List.rel_filter ?_ h
  intro a b hab
  exact Bool.eq_iff_iff.1 (hpq a b hab)

theorem erase {k l : κ} (h : t.Pairs R u) (hkey : SameKey R k l) :
    (t.erase k).Pairs R (u.erase l) := by
  apply h.filter
  intro a b hab
  rw [Bool.eq_iff_iff, bne_iff_ne, bne_iff_ne, not_iff_not]
  exact hkey.place_iff hab

theorem mono {S : ρ → σ → Prop} (h : t.Pairs R u) (hRS : ∀ a b, R a b → S a b) : t.Pairs S u :=
  List.Forall₂.imp (fun {a b} => hRS a b) h

end Pairs

end Table

end Loyalty
