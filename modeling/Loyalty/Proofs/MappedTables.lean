import Loyalty.Store.Table

/-!
# Tables row by row

A table of which every row is changed into another one of the same key. What is found, put and
removed is what is found, put and removed in the first table, changed in the same way.
-/

namespace Loyalty

variable {ρ σ κ : Type} [Ranked κ] [Keyed ρ κ] [Keyed σ κ] {f : ρ → σ}

theorem place_of_key {a : ρ} {b : σ} (h : Keyed.key b = Keyed.key a) : place b = place a := by
  rw [place, h, place]

theorem placeRow_map (hf : ∀ r, Keyed.key (f r) = Keyed.key r) (r : ρ) (rows : List ρ) :
    placeRow (f r) (rows.map f) = (placeRow r rows).map f := by
  induction rows with
  | nil => rfl
  | cons x xs ih =>
    rw [List.map_cons, placeRow, placeRow, place_of_key (hf r), place_of_key (hf x), ih]
    split
    · rfl
    · split <;> rfl

namespace Table

def map (f : ρ → σ) (hf : ∀ r, Keyed.key (f r) = Keyed.key r) (t : Table ρ) : Table σ :=
  ⟨t.rows.map f, List.pairwise_map.2
    (t.ordered.imp fun {a b} hab => by rwa [place_of_key (hf a), place_of_key (hf b)])⟩

variable {hf : ∀ r, Keyed.key (f r) = Keyed.key r} (t : Table ρ)

@[simp] theorem rows_map : (t.map f hf).rows = t.rows.map f := rfl

@[simp] theorem map_empty : (empty : Table ρ).map f hf = empty := rfl

@[simp] theorem find?_map (k : κ) : (t.map f hf).find? k = (t.find? k).map f := by
  rw [find?, find?, rows_map, List.find?_map]
  congr 2
  funext r
  rw [Function.comp, place_of_key (hf r)]

@[simp] theorem put_map (r : ρ) : (t.map f hf).put (f r) = (t.put r).map f hf :=
  ext_rows (placeRow_map hf r t.rows)

end Table

end Loyalty
