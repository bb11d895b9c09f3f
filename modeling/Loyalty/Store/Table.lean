/-!
# Tables

A table is a list of rows in strictly increasing order of their keys. A row carries its key, and
keys are compared by a whole number that tells them apart. So a table holds at most one row of a
key, and two tables that find the same rows are equal.
-/

namespace Loyalty

class Ranked (κ : Type) where
  rank : κ → Int
  rank_injective : ∀ {a b : κ}, rank a = rank b → a = b

class Keyed (ρ : Type) (κ : outParam Type) where
  key : ρ → κ

variable {ρ κ : Type} [Ranked κ] [Keyed ρ κ]

def place (r : ρ) : Int := Ranked.rank (Keyed.key r)

theorem key_eq_of_place_eq {a b : ρ} (h : place a = place b) : Keyed.key a = Keyed.key b :=
  Ranked.rank_injective h

def InOrder (rows : List ρ) : Prop := rows.Pairwise fun a b => place a < place b

theorem inOrder_cons {r : ρ} {rows : List ρ} :
    InOrder (r :: rows) ↔ (∀ x ∈ rows, place r < place x) ∧ InOrder rows := List.pairwise_cons

/-- Puts a row in its place, where it replaces a row of the same key. -/
def placeRow (r : ρ) : List ρ → List ρ
  | [] => [r]
  | x :: xs =>
    if place r < place x then r :: x :: xs
    else if place x < place r then x :: placeRow r xs
    else r :: xs

theorem mem_placeRow_self (r : ρ) (rows : List ρ) : r ∈ placeRow r rows := by
  induction rows with
  | nil => exact List.mem_singleton_self r
  | cons x xs ih =>
    unfold placeRow
    split
    · exact List.mem_cons_self
    · split
      · exact List.mem_cons_of_mem x ih
      · exact List.mem_cons_self

theorem eq_or_mem_of_mem_placeRow {r y : ρ} {rows : List ρ} (h : y ∈ placeRow r rows) :
    y = r ∨ y ∈ rows := by
  induction rows with
  | nil => exact Or.inl (List.mem_singleton.1 h)
  | cons x xs ih =>
    unfold placeRow at h
    split at h
    · exact List.mem_cons.1 h
    · split at h
      · rcases List.mem_cons.1 h with rfl | h
        · exact Or.inr List.mem_cons_self
        · exact (ih h).imp_right (List.mem_cons_of_mem x)
      · exact (List.mem_cons.1 h).imp_right (List.mem_cons_of_mem x)

theorem mem_placeRow_of_ne {r y : ρ} {rows : List ρ} (hy : y ∈ rows) (hne : place y ≠ place r) :
    y ∈ placeRow r rows := by
  induction rows with
  | nil => exact absurd hy List.not_mem_nil
  | cons x xs ih =>
    unfold placeRow
    split
    · exact List.mem_cons_of_mem r hy
    · split
      · rcases List.mem_cons.1 hy with rfl | hy
        · exact List.mem_cons_self
        · exact List.mem_cons_of_mem x (ih hy)
      · rcases List.mem_cons.1 hy with rfl | hy
        · omega
        · exact List.mem_cons_of_mem r hy

theorem inOrder_placeRow {r : ρ} {rows : List ρ} (h : InOrder rows) :
    InOrder (placeRow r rows) := by
  induction rows with
  | nil => exact List.pairwise_singleton _ r
  | cons x xs ih =>
    obtain ⟨hx, hxs⟩ := inOrder_cons.1 h
    unfold placeRow
    split
    · rename_i hlt
      refine inOrder_cons.2 ⟨?_, h⟩
      intro y hy
      rcases List.mem_cons.1 hy with rfl | hy
      · exact hlt
      · exact Int.lt_trans hlt (hx y hy)
    · split
      · rename_i hlt
        refine inOrder_cons.2 ⟨?_, ih hxs⟩
        intro y hy
        rcases eq_or_mem_of_mem_placeRow hy with rfl | hy
        · exact hlt
        · exact hx y hy
      · refine inOrder_cons.2 ⟨?_, hxs⟩
        intro y hy
        have := hx y hy
        omega

theorem eq_of_place_eq {rows : List ρ} (h : InOrder rows) {a b : ρ} (ha : a ∈ rows) (hb : b ∈ rows)
    (hab : place a = place b) : a = b := by
  induction rows with
  | nil => exact absurd ha List.not_mem_nil
  | cons x xs ih =>
    obtain ⟨hx, hxs⟩ := inOrder_cons.1 h
    rcases List.mem_cons.1 ha with hax | hax
    · rcases List.mem_cons.1 hb with hbx | hbx
      · exact hax.trans hbx.symm
      · have := hx b hbx
        subst hax
        omega
    · rcases List.mem_cons.1 hb with hbx | hbx
      · have := hx a hax
        subst hbx
        omega
      · exact ih hxs hax hbx

/-- A row of a new key is one more row. -/
theorem perm_placeRow {r : ρ} {rows : List ρ} (h : ∀ x ∈ rows, place x ≠ place r) :
    (placeRow r rows).Perm (r :: rows) := by
  induction rows with
  | nil => exact List.Perm.refl _
  | cons x xs ih =>
    have hx := h x List.mem_cons_self
    have hxs := ih fun y hy => h y (List.mem_cons_of_mem x hy)
    unfold placeRow
    split
    · exact List.Perm.refl _
    · split
      · exact (hxs.cons x).trans (List.Perm.swap r x xs)
      · omega

/-- A row of a known key takes the place of the row that was there. -/
theorem map_placeRow {α : Type} {f : ρ → α} {r old : ρ} {rows : List ρ} (h : InOrder rows)
    (hold : old ∈ rows) (hplace : place old = place r) (hf : f old = f r) :
    (placeRow r rows).map f = rows.map f := by
  induction rows with
  | nil => exact absurd hold List.not_mem_nil
  | cons x xs ih =>
    obtain ⟨hx, hxs⟩ := inOrder_cons.1 h
    unfold placeRow
    rcases List.mem_cons.1 hold with rfl | hold
    · rw [if_neg (by omega), if_neg (by omega), List.map_cons, List.map_cons, hf]
    · have hlt := hx old hold
      rw [if_neg (by omega), if_pos (by omega), List.map_cons, List.map_cons, ih hxs hold]

theorem eq_of_mem_iff {rows others : List ρ} (h : InOrder rows) (ho : InOrder others)
    (hmem : ∀ r, r ∈ rows ↔ r ∈ others) : rows = others := by
  induction rows generalizing others with
  | nil =>
    cases others with
    | nil => rfl
    | cons y ys => exact absurd ((hmem y).2 List.mem_cons_self) List.not_mem_nil
  | cons x xs ih =>
    cases others with
    | nil => exact absurd ((hmem x).1 List.mem_cons_self) List.not_mem_nil
    | cons y ys =>
      obtain ⟨hx, hxs⟩ := inOrder_cons.1 h
      obtain ⟨hy, hys⟩ := inOrder_cons.1 ho
      have hxy : x = y := by
        rcases List.mem_cons.1 ((hmem x).1 List.mem_cons_self) with hxy | hx'
        · exact hxy
        · rcases List.mem_cons.1 ((hmem y).2 List.mem_cons_self) with hyx | hy'
          · exact hyx.symm
          · have := hx y hy'
            have := hy x hx'
            omega
      subst hxy
      congr 1
      apply ih hxs hys
      intro r
      constructor
      · intro hr
        have := hx r hr
        rcases List.mem_cons.1 ((hmem r).1 (List.mem_cons_of_mem x hr)) with rfl | hr'
        · omega
        · exact hr'
      · intro hr
        have := hy r hr
        rcases List.mem_cons.1 ((hmem r).2 (List.mem_cons_of_mem x hr)) with rfl | hr'
        · omega
        · exact hr'

structure Table (ρ : Type) {κ : Type} [Ranked κ] [Keyed ρ κ] where
  rows : List ρ
  ordered : InOrder rows

namespace Table

def empty : Table ρ := ⟨[], List.Pairwise.nil⟩

def find? (t : Table ρ) (k : κ) : Option ρ :=
  t.rows.find? fun r => place r == Ranked.rank k

def put (t : Table ρ) (r : ρ) : Table ρ := ⟨placeRow r t.rows, inOrder_placeRow t.ordered⟩

def filter (t : Table ρ) (keep : ρ → Bool) : Table ρ :=
  ⟨t.rows.filter keep, t.ordered.filter keep⟩

def erase (t : Table ρ) (k : κ) : Table ρ := t.filter fun r => place r != Ranked.rank k

def size (t : Table ρ) : Nat := t.rows.length

theorem place_of_find? {t : Table ρ} {k : κ} {r : ρ} (h : t.find? k = some r) :
    place r = Ranked.rank k := by
  have hr := List.find?_some h
  exact eq_of_beq hr

theorem find?_eq_some_iff {t : Table ρ} {k : κ} {r : ρ} :
    t.find? k = some r ↔ r ∈ t.rows ∧ Keyed.key r = k := by
  constructor
  · intro h
    exact ⟨List.mem_of_find?_eq_some h, Ranked.rank_injective (place_of_find? h)⟩
  · rintro ⟨hr, rfl⟩
    cases hf : t.find? (Keyed.key r) with
    | none => exact absurd (List.find?_eq_none.1 hf r hr) (by simp [place])
    | some x =>
      rw [eq_of_place_eq t.ordered (List.mem_of_find?_eq_some hf) hr (place_of_find? hf)]

theorem find?_eq_none_iff {t : Table ρ} {k : κ} :
    t.find? k = none ↔ ∀ r ∈ t.rows, Keyed.key r ≠ k := by
  constructor
  · intro h r hr hk
    rw [find?_eq_some_iff.2 ⟨hr, hk⟩] at h
    exact absurd h (Option.some_ne_none r)
  · intro h
    cases hf : t.find? k with
    | none => rfl
    | some r => exact absurd (find?_eq_some_iff.1 hf).2 (h r (find?_eq_some_iff.1 hf).1)

theorem ext_rows {t u : Table ρ} (h : t.rows = u.rows) : t = u := by
  cases t
  cases u
  cases h
  rfl

theorem ext_find? {t u : Table ρ} (h : ∀ k, t.find? k = u.find? k) : t = u := by
  apply ext_rows
  apply eq_of_mem_iff t.ordered u.ordered
  intro r
  have hr := h (Keyed.key r)
  constructor
  · intro ht
    rw [find?_eq_some_iff.2 ⟨ht, rfl⟩] at hr
    exact (find?_eq_some_iff.1 hr.symm).1
  · intro hu
    rw [find?_eq_some_iff.2 ⟨hu, rfl⟩] at hr
    exact (find?_eq_some_iff.1 hr).1

theorem mem_put {t : Table ρ} {r y : ρ} :
    y ∈ (t.put r).rows ↔ y = r ∨ y ∈ t.rows ∧ Keyed.key y ≠ Keyed.key r := by
  constructor
  · intro h
    rcases eq_or_mem_of_mem_placeRow h with rfl | hy
    · exact Or.inl rfl
    · by_cases hk : Keyed.key y = Keyed.key r
      · left
        exact eq_of_place_eq (t.put r).ordered h (mem_placeRow_self r t.rows) (by simp [place, hk])
      · exact Or.inr ⟨hy, hk⟩
  · rintro (rfl | ⟨hy, hk⟩)
    · exact mem_placeRow_self y t.rows
    · exact mem_placeRow_of_ne hy fun h => hk (key_eq_of_place_eq h)

@[simp] theorem find?_put_self (t : Table ρ) (r : ρ) : (t.put r).find? (Keyed.key r) = some r :=
  find?_eq_some_iff.2 ⟨mem_put.2 (Or.inl rfl), rfl⟩

theorem find?_put_of_ne {t : Table ρ} {r : ρ} {k : κ} (h : Keyed.key r ≠ k) :
    (t.put r).find? k = t.find? k := by
  apply Option.ext
  intro y
  rw [find?_eq_some_iff, find?_eq_some_iff, mem_put]
  constructor
  · rintro ⟨rfl | ⟨hy, _⟩, hk⟩
    · exact absurd hk h
    · exact ⟨hy, hk⟩
  · rintro ⟨hy, rfl⟩
    exact ⟨Or.inr ⟨hy, h.symm⟩, rfl⟩

theorem perm_put {t : Table ρ} {r : ρ} (h : t.find? (Keyed.key r) = none) :
    (t.put r).rows.Perm (r :: t.rows) :=
  perm_placeRow fun x hx hplace => find?_eq_none_iff.1 h x hx (key_eq_of_place_eq hplace)

theorem map_put {α : Type} {f : ρ → α} {t : Table ρ} {r old : ρ}
    (h : t.find? (Keyed.key r) = some old) (hf : f old = f r) :
    (t.put r).rows.map f = t.rows.map f :=
  map_placeRow t.ordered (find?_eq_some_iff.1 h).1 (place_of_find? h) hf

theorem find?_filter (t : Table ρ) (keep : ρ → Bool) (k : κ) :
    (t.filter keep).find? k = (t.find? k).filter keep := by
  apply Option.ext
  intro y
  rw [find?_eq_some_iff, Option.filter_eq_some_iff, find?_eq_some_iff]
  simp only [filter, List.mem_filter]
  exact and_right_comm

@[simp] theorem find?_erase_self (t : Table ρ) (k : κ) : (t.erase k).find? k = none := by
  rw [find?_eq_none_iff]
  intro r hr hk
  simp [erase, filter, place, hk] at hr

theorem find?_erase_of_ne {t : Table ρ} {k k' : κ} (h : k ≠ k') :
    (t.erase k).find? k' = t.find? k' := by
  apply Option.ext
  intro y
  rw [find?_eq_some_iff, find?_eq_some_iff]
  simp only [erase, filter, List.mem_filter]
  constructor
  · rintro ⟨⟨hy, _⟩, hk⟩
    exact ⟨hy, hk⟩
  · rintro ⟨hy, rfl⟩
    refine ⟨⟨hy, ?_⟩, rfl⟩
    rw [bne_iff_ne]
    exact fun hr => h (Ranked.rank_injective hr).symm

end Table

end Loyalty
