import Loyalty.Proofs.Columns
import Loyalty.Proofs.Exchange
import Loyalty.Proofs.MappedTables
import Loyalty.Proofs.PairedTables

/-!
# Entries

What is entered under each key of a store, as told by its exchanges alone: a creation enters what it
was answered with, later exchanges alter or remove it. A table records the entries if it finds the
columns of each under its key. Then every row of it can be read, and is read as what was entered.
-/

namespace Loyalty

/-- What an exchange does to the entries of one kind. -/
inductive Entry (ρ κ : Type) where
  | enters (row : ρ)
  | alters (key : κ) (change : ρ → ρ)
  | removes (key : κ)
  | keeps

variable {ρ σ κ : Type} [Ranked κ] [Keyed ρ κ] [Keyed σ κ]

section Account

variable [DecidableEq κ]

def Entry.apply : Entry ρ κ → (κ → Option ρ) → κ → Option ρ
  | .enters row, known, k => if Keyed.key row = k then some row else known k
  | .alters key change, known, k => if key = k then (known k).map change else known k
  | .removes key, known, k => if key = k then none else known k
  | .keeps, known, k => known k

/-- The entry under each key after some exchanges, the latest first. -/
def recorded (entry : Exchange → Entry ρ κ) : List Exchange → κ → Option ρ
  | [] => fun _ => none
  | x :: past => (entry x).apply (recorded entry past)

end Account

theorem find?_eq_some_iff_of_unique {p : ρ → Bool} {rows : List ρ}
    (hunique : ∀ v ∈ rows, ∀ w ∈ rows, p v = true → p w = true → v = w) {v : ρ} :
    rows.find? p = some v ↔ v ∈ rows ∧ p v = true := by
  constructor
  · intro hv
    exact ⟨List.mem_of_find?_eq_some hv, List.find?_some hv⟩
  · rintro ⟨hv, hp⟩
    cases hfound : rows.find? p with
    | none => exact absurd hp (List.find?_eq_none.1 hfound v hv)
    | some w =>
      rw [hunique v hv w (List.mem_of_find?_eq_some hfound) hp (List.find?_some hfound)]

theorem exists_map_eq {columns : ρ → σ} {rows : List σ} (h : ∀ row ∈ rows, ∃ v, columns v = row) :
    ∃ vs : List ρ, vs.map columns = rows := by
  induction rows with
  | nil => exact ⟨[], rfl⟩
  | cons row rows ih =>
    obtain ⟨v, hv⟩ := h row List.mem_cons_self
    obtain ⟨vs, hvs⟩ := ih fun row' hrow' => h row' (List.mem_cons_of_mem row hrow')
    exact ⟨v :: vs, by rw [List.map_cons, hv, hvs]⟩

namespace Table

/-- A table holds the columns of the entries, of which the keys have been numbered so far. -/
structure Records (t : Table σ) (columns : ρ → σ) (last : Nat) (known : κ → Option ρ) : Prop where
  found : ∀ k, t.find? k = (known k).map columns
  numbered : last < 2147483647 → ∀ k, (known k).isSome → Ranked.rank k ≤ last

namespace Records

variable {t : Table σ} {columns : ρ → σ} {read : σ → Except StoreError ρ} {last : Nat}
  {known : κ → Option ρ}

theorem key_eq (h : t.Records columns last known) (hcolumns : Encodes columns read) {k : κ} {v : ρ}
    (hv : known k = some v) : Keyed.key v = k := by
  have hfound := h.found k
  rw [hv] at hfound
  rw [← hcolumns.key_eq]
  exact (find?_eq_some_iff.1 hfound).2

omit [Keyed ρ κ] in
theorem fresh (h : t.Records columns last known) {k : κ} (hlast : last < 2147483647)
    (hk : Ranked.rank k = last + 1) : known k = none := by
  cases hknown : known k with
  | none => rfl
  | some v =>
    have hle := h.numbered hlast k (by rw [hknown, Option.isSome])
    omega

section Steps

variable [DecidableEq κ]

theorem enter (h : t.Records columns last known) (hcolumns : Encodes columns read) {v : ρ}
    (hnumber : last < 2147483647 → Ranked.rank (Keyed.key v) = last + 1) :
    (t.put (columns v)).Records columns (last + 1) ((Entry.enters v).apply known) := by
  constructor
  · intro k
    by_cases hk : Keyed.key v = k
    · subst hk
      rw [Entry.apply, if_pos rfl, ← hcolumns.key_eq, find?_put_self, Option.map_some]
    · rw [Entry.apply, if_neg hk, find?_put_of_ne (by rwa [hcolumns.key_eq]), h.found]
  · intro hlast k hsome
    by_cases hk : Keyed.key v = k
    · subst hk
      have hrank := hnumber (by omega)
      omega
    · rw [Entry.apply, if_neg hk] at hsome
      have hle := h.numbered (by omega) k hsome
      omega

theorem alter (h : t.Records columns last known) (hcolumns : Encodes columns read)
    (change : ρ → ρ) {key : κ} {v : ρ} (hv : known key = some v)
    (hchange : Keyed.key (change v) = Keyed.key v) :
    (t.put (columns (change v))).Records columns last ((Entry.alters key change).apply known) := by
  have hkey : Keyed.key (columns (change v)) = key := by
    rw [hcolumns.key_eq, hchange, h.key_eq hcolumns hv]
  constructor
  · intro k
    by_cases hk : key = k
    · subst hk
      rw [Entry.apply, if_pos rfl, hv, ← hkey, find?_put_self, Option.map_some, Option.map_some]
    · rw [Entry.apply, if_neg hk, find?_put_of_ne (by rwa [hkey]), h.found]
  · intro hlast k hsome
    apply h.numbered hlast k
    by_cases hk : key = k
    · rwa [Entry.apply, if_pos hk, Option.isSome_map] at hsome
    · rwa [Entry.apply, if_neg hk] at hsome

theorem remove (h : t.Records columns last known) (key : κ) :
    (t.erase key).Records columns last ((Entry.removes key).apply known) := by
  constructor
  · intro k
    by_cases hk : key = k
    · subst hk
      rw [Entry.apply, if_pos rfl, find?_erase_self, Option.map_none]
    · rw [Entry.apply, if_neg hk, find?_erase_of_ne hk, h.found]
  · intro hlast k hsome
    by_cases hk : key = k
    · rw [Entry.apply, if_pos hk] at hsome
      cases hsome
    · rw [Entry.apply, if_neg hk] at hsome
      exact h.numbered hlast k hsome

end Steps

/-- The rows are the columns of all entries, in the order of their keys. -/
theorem exists_rows (h : t.Records columns last known) (hcolumns : Encodes columns read) :
    ∃ vs : List ρ, vs.map columns = t.rows ∧ InOrder vs ∧
      ∀ v, v ∈ vs ↔ known (Keyed.key v) = some v := by
  have hinjective : Function.Injective columns := by
    intro v w hvw
    have hv := hcolumns.read_eq v
    rw [hvw, hcolumns.read_eq] at hv
    cases hv
    rfl
  have hrows : ∀ row ∈ t.rows, ∃ v, columns v = row := by
    intro row hrow
    have hfound := h.found (Keyed.key row)
    rw [find?_eq_some_iff.2 ⟨hrow, rfl⟩] at hfound
    obtain ⟨v, -, hv⟩ := Option.map_eq_some_iff.1 hfound.symm
    exact ⟨v, hv⟩
  obtain ⟨vs, hvs⟩ := exists_map_eq hrows
  refine ⟨vs, hvs, ?_, ?_⟩
  · have hordered := t.ordered
    rw [← hvs, InOrder, List.pairwise_map] at hordered
    apply hordered.imp
    intro a b hab
    rwa [place_of_key (hcolumns.key_eq a), place_of_key (hcolumns.key_eq b)] at hab
  · intro v
    have hfound := h.found (Keyed.key v)
    constructor
    · intro hv
      have hrow : columns v ∈ t.rows := by
        rw [← hvs]
        exact List.mem_map_of_mem hv
      rw [find?_eq_some_iff.2 ⟨hrow, hcolumns.key_eq v⟩] at hfound
      obtain ⟨w, hw, hwv⟩ := Option.map_eq_some_iff.1 hfound.symm
      rw [hw, hinjective hwv]
    · intro hv
      rw [hv] at hfound
      have hrow := (find?_eq_some_iff.1 hfound).1
      rw [← hvs] at hrow
      obtain ⟨w, hw, hwv⟩ := List.mem_map.1 hrow
      rwa [← hinjective hwv]

theorem readRow (h : t.Records columns last known) (hcolumns : Encodes columns read) (k : κ) :
    readRow read (t.find? k) = .ok (known k) := by
  rw [h.found, readRow_columns hcolumns.read_eq]

theorem any_iff (h : t.Records columns last known) (hcolumns : Encodes columns read)
    (p : σ → Bool) :
    t.rows.any p = true ↔ ∃ v, known (Keyed.key v) = some v ∧ p (columns v) = true := by
  obtain ⟨vs, hvs, -, hmem⟩ := h.exists_rows hcolumns
  rw [← hvs, List.any_map, List.any_eq_true]
  simp only [hmem, Function.comp]

/-- The first row that passes a test is read as the only entry that passes it. -/
theorem readFirst (h : t.Records columns last known) (hcolumns : Encodes columns read)
    {p : σ → Bool}
    (hunique : ∀ v w, known (Keyed.key v) = some v → known (Keyed.key w) = some w →
      p (columns v) = true → p (columns w) = true → v = w) :
    ∃ found, Loyalty.readRow read (t.rows.find? p) = .ok found ∧
      ∀ v, found = some v ↔ known (Keyed.key v) = some v ∧ p (columns v) = true := by
  obtain ⟨vs, hvs, -, hmem⟩ := h.exists_rows hcolumns
  refine ⟨vs.find? (p ∘ columns), ?_, ?_⟩
  · rw [← hvs, List.find?_map, readRow_columns hcolumns.read_eq]
  · intro v
    rw [find?_eq_some_iff_of_unique, hmem]
    · rfl
    · exact fun v hv w hw => hunique v w ((hmem v).1 hv) ((hmem w).1 hw)

theorem readAll (h : t.Records columns last known) (hcolumns : Encodes columns read)
    (p : σ → Bool) :
    ∃ listed, readRows read (t.rows.filter p) = .ok listed ∧ InOrder listed ∧
      ∀ v, v ∈ listed ↔ known (Keyed.key v) = some v ∧ p (columns v) = true := by
  obtain ⟨vs, hvs, hordered, hmem⟩ := h.exists_rows hcolumns
  refine ⟨vs.filter (p ∘ columns), ?_, hordered.filter _, ?_⟩
  · rw [← hvs, List.filter_map, readRows_columns hcolumns.read_eq]
  · intro v
    rw [List.mem_filter, hmem]
    rfl

end Records

end Table

end Loyalty
