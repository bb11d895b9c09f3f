import Loyalty.Proofs.Entries
import Loyalty.Proofs.Sequence

/-!
# Chronicles

The calls on a store chronicle one of its tables if the answer of each tells what became of the
table: a row was entered, altered or removed, or all were kept. Identifiers grow, so rows are
entered behind all others; they are altered and removed where they stand. Hence the table after some
calls is the one before them, with each row as the calls have left it, and behind it the rows that
the calls have entered, in their order and each as the later calls have left it.
-/

namespace Loyalty

namespace Entry

variable {ρ κ : Type}

def entered? : Entry ρ κ → Option ρ
  | .enters row => some row
  | _ => none

@[simp] theorem entered?_alters (key : κ) (change : ρ → ρ) :
    (Entry.alters key change).entered? = none := rfl

@[simp] theorem entered?_removes (key : κ) : (Entry.removes key : Entry ρ κ).entered? = none := rfl

@[simp] theorem entered?_keeps : (Entry.keeps : Entry ρ κ).entered? = none := rfl

end Entry

section Tables

variable {ρ κ : Type} [Ranked κ] [Keyed ρ κ]

theorem placeRow_of_last {r : ρ} {rows : List ρ} (h : ∀ x ∈ rows, place x < place r) :
    placeRow r rows = rows ++ [r] := by
  induction rows with
  | nil => rfl
  | cons x xs ih =>
    have hx := h x List.mem_cons_self
    rw [placeRow, if_neg (by omega), if_pos hx, ih fun y hy => h y (List.mem_cons_of_mem x hy),
      List.cons_append]

theorem placeRow_eq_map [DecidableEq κ] {r old : ρ} {rows : List ρ} (h : InOrder rows)
    (hold : old ∈ rows) (hplace : place old = place r) :
    placeRow r rows = rows.map fun x => if Keyed.key x = Keyed.key r then r else x := by
  have hother : ∀ x : ρ, place x ≠ place r → Keyed.key x ≠ Keyed.key r := by
    intro x hx hkey
    exact hx (congrArg Ranked.rank hkey)
  induction rows with
  | nil => exact absurd hold List.not_mem_nil
  | cons x xs ih =>
    obtain ⟨hx, hxs⟩ := inOrder_cons.1 h
    unfold placeRow
    rcases List.mem_cons.1 hold with rfl | hold
    · have hrest : xs.map (fun x => if Keyed.key x = Keyed.key r then r else x) = xs := by
        refine (List.map_congr_left fun y hy => ?_).trans (List.map_id xs)
        have hlt := hx y hy
        exact if_neg (hother y (by omega))
      rw [if_neg (by omega), if_neg (by omega), List.map_cons, hrest,
        if_pos (key_eq_of_place_eq hplace)]
    · have hlt := hx old hold
      rw [if_neg (by omega), if_pos (by omega), List.map_cons, ih hxs hold,
        if_neg (hother x (by omega))]

theorem filterMap_toList (new : Option ρ) (left : ρ → Option ρ) :
    new.toList.filterMap left = (new.bind left).toList := by
  cases new with
  | none => rfl
  | some row =>
    rw [Option.toList_some, Option.bind_some, List.filterMap_cons]
    cases left row <;> rfl

/-- A list of rows that are left shows, of those that it shows, what a list of the rows before has
shown. -/
theorem filter_filterMap_sublist {left : ρ → Option ρ} {relisted listed : ρ → Bool}
    (h : ∀ row row', left row = some row' → relisted row' = true → row' = row ∧ listed row = true)
    (rows : List ρ) : ((rows.filterMap left).filter relisted).Sublist (rows.filter listed) := by
  induction rows with
  | nil => exact List.Sublist.slnil
  | cons row rows ih =>
    have hskip : (rows.filter listed).Sublist ((row :: rows).filter listed) :=
      (List.sublist_cons_self row rows).filter listed
    cases hleft : left row with
    | none =>
      rw [List.filterMap_cons_none hleft]
      exact ih.trans hskip
    | some row' =>
      rw [List.filterMap_cons_some hleft]
      by_cases hrelisted : relisted row' = true
      · obtain ⟨rfl, hlisted⟩ := h row row' hleft hrelisted
        rw [List.filter_cons_of_pos hrelisted, List.filter_cons_of_pos hlisted]
        exact ih.cons_cons row'
      · rw [List.filter_cons_of_neg hrelisted]
        exact ih.trans hskip

namespace Table

def UpTo (t : Table ρ) (last : Nat) : Prop := ∀ row ∈ t.rows, place row ≤ last

theorem rows_put_of_find? [DecidableEq κ] {t : Table ρ} {r old : ρ} {k : κ}
    (hfound : t.find? k = some old) (hkey : Keyed.key r = k) :
    (t.put r).rows = t.rows.map fun x => if Keyed.key x = k then r else x := by
  subst hkey
  exact placeRow_eq_map t.ordered (find?_eq_some_iff.1 hfound).1 (place_of_find? hfound)

end Table

namespace Entry

def revise : Entry ρ κ → Table ρ → Table ρ
  | .enters row, t => t.put row
  | .alters key change, t =>
    match t.find? key with
    | none => t
    | some row => t.put (change row)
  | .removes key, t => t.erase key
  | .keeps, t => t

theorem revise_alters {t : Table ρ} {key : κ} (change : ρ → ρ) {row : ρ}
    (h : t.find? key = some row) : (Entry.alters key change).revise t = t.put (change row) := by
  rw [revise, h]

def KeepsKeys (entry : Entry ρ κ) : Prop :=
  ∀ key change, entry = .alters key change → ∀ row, Keyed.key (change row) = Keyed.key row

variable [DecidableEq κ]

def fate : Entry ρ κ → ρ → Option ρ
  | .alters key change, row => some (if Keyed.key row = key then change row else row)
  | .removes key, row => if Keyed.key row = key then none else some row
  | _, row => some row

variable {entry : Entry ρ κ}

omit [Ranked κ] in
theorem key_of_fate (hkeys : entry.KeepsKeys) {row left : ρ} (h : entry.fate row = some left) :
    Keyed.key left = Keyed.key row := by
  cases entry with
  | enters new => rw [Option.some.inj h]
  | alters key change =>
    rw [← Option.some.inj h]
    split
    · exact hkeys key change rfl row
    · rfl
  | removes key =>
    simp only [fate] at h
    split at h
    · cases h
    · rw [Option.some.inj h]
  | keeps => rw [Option.some.inj h]

theorem rows_alters (t : Table ρ) {key : κ} {change : ρ → ρ}
    (hkeys : (Entry.alters key change).KeepsKeys) :
    ((Entry.alters key change).revise t).rows =
      t.rows.map fun row => if Keyed.key row = key then change row else row := by
  rw [revise]
  cases hfound : t.find? key with
  | none =>
    refine ((List.map_congr_left fun row hrow => ?_).trans (List.map_id t.rows)).symm
    exact if_neg (Table.find?_eq_none_iff.1 hfound row hrow)
  | some old =>
    have hold := (Table.find?_eq_some_iff.1 hfound).2
    have hchanged : Keyed.key (change old) = key := (hkeys key change rfl old).trans hold
    refine (Table.rows_put_of_find? hfound hchanged).trans (List.map_congr_left ?_)
    intro row hrow
    by_cases hkey : Keyed.key row = key
    · have hsame : some row = some old := (Table.find?_eq_some_iff.2 ⟨hrow, hkey⟩).symm.trans hfound
      rw [if_pos hkey, if_pos hkey, Option.some.inj hsame]
    · rw [if_neg hkey, if_neg hkey]

theorem rows_removes (t : Table ρ) (key : κ) :
    ((Entry.removes key : Entry ρ κ).revise t).rows =
      t.rows.filterMap (Entry.removes key : Entry ρ κ).fate := by
  change t.rows.filter _ = _
  rw [← List.filterMap_eq_filter]
  apply List.filterMap_congr
  intro row hrow
  by_cases hkey : Keyed.key row = key
  · subst hkey
    simp [fate, place]
  · have hplace : place row ≠ Ranked.rank key := fun hrank => hkey (Ranked.rank_injective hrank)
    simp [fate, Option.guard, hkey, hplace]

theorem rows_revise {t : Table ρ} (hkeys : entry.KeepsKeys)
    (hlast : ∀ new, entry.entered? = some new → ∀ row ∈ t.rows, place row < place new) :
    (entry.revise t).rows = t.rows.filterMap entry.fate ++ entry.entered?.toList := by
  cases entry with
  | enters new =>
    have hkept : t.rows.filterMap (Entry.enters new).fate = t.rows := List.filterMap_some
    rw [hkept]
    exact placeRow_of_last (hlast new rfl)
  | alters key change =>
    have hmap : t.rows.filterMap (Entry.alters key change).fate =
        t.rows.map fun row => if Keyed.key row = key then change row else row :=
      congrFun List.filterMap_eq_map t.rows
    rw [hmap, entered?_alters, Option.toList_none, List.append_nil, rows_alters t hkeys]
  | removes key =>
    rw [entered?_removes, Option.toList_none, List.append_nil, rows_removes]
  | keeps =>
    have hkept : t.rows.filterMap (Entry.keeps : Entry ρ κ).fate = t.rows := List.filterMap_some
    rw [hkept, entered?_keeps, Option.toList_none, List.append_nil, revise]

end Entry

end Tables

open Memory

/-- The calls on a store tell of a table what becomes of it. A row that is entered takes the next
number. -/
structure Chronicle {ρ κ : Type} [Ranked κ] [Keyed ρ κ] [DecidableEq κ] (table : Memory → Table ρ)
    (entry : Call → Entry ρ κ) : Prop where
  initial : table .empty = .empty
  revised : ∀ (op : Operation) (s : Memory),
    table (op.call s).after = (entry (op.call s)).revise (table s)
  keys : ∀ c, (entry c).KeepsKeys
  numbered : ∀ (op : Operation) (s : Memory) (new : ρ), (entry (op.call s)).entered? = some new →
    (op.call s).after.created = s.created + 1 ∧
      (s.created < 2147483647 → place new = s.created + 1)

namespace Chronicle

variable {ρ κ : Type} {entry : Call → Entry ρ κ}

/-- The rows that some calls have entered, in their order, each in the form that it has after the
later calls. -/
def standing (entry : Call → Entry ρ κ) (form : List Call → ρ → Option ρ) : List Call → List ρ
  | [] => []
  | c :: later => ((entry c).entered?.bind (form later)).toList ++ standing entry form later

theorem mem_standing {form : List Call → ρ → Option ρ} {cs : List Call} {row : ρ} :
    row ∈ standing entry form cs ↔ ∃ before c later new, cs = before ++ c :: later ∧
      (entry c).entered? = some new ∧ form later new = some row := by
  induction cs with
  | nil => simp [standing]
  | cons c cs ih =>
    rw [standing, List.mem_append, ih, Option.mem_toList, Option.bind_eq_some_iff]
    constructor
    · rintro (⟨new, hnew, hrow⟩ | ⟨before, c', later, new, rfl, hnew, hrow⟩)
      · exact ⟨[], c, cs, new, rfl, hnew, hrow⟩
      · exact ⟨c :: before, c', later, new, rfl, hnew, hrow⟩
    · rintro ⟨before, c', later, new, hsplit, hnew, hrow⟩
      cases before with
      | nil =>
        obtain ⟨rfl, rfl⟩ := List.cons.inj hsplit
        exact Or.inl ⟨new, hnew, hrow⟩
      | cons first before =>
        exact Or.inr ⟨before, c', later, new, (List.cons.inj hsplit).2, hnew, hrow⟩

def entered (entry : Call → Entry ρ κ) (cs : List Call) : List ρ :=
  cs.filterMap fun c => (entry c).entered?

theorem exists_entered {form : List Call → ρ → Option ρ} {cs : List Call} {row : ρ}
    (h : row ∈ standing entry form cs) : ∃ new ∈ entered entry cs, ∃ later,
      form later new = some row := by
  obtain ⟨before, c, later, new, rfl, hnew, hrow⟩ := mem_standing.1 h
  have hcall : c ∈ before ++ c :: later := List.mem_append_right before List.mem_cons_self
  exact ⟨new, List.mem_filterMap.2 ⟨c, hcall, hnew⟩, later, hrow⟩

theorem entered_cons (c : Call) (cs : List Call) :
    entered entry (c :: cs) = (entry c).entered?.toList ++ entered entry cs := by
  rw [entered, List.filterMap_cons]
  cases (entry c).entered? <;> rfl

theorem entered_append (cs cs' : List Call) :
    entered entry (cs ++ cs') = entered entry cs ++ entered entry cs' := List.filterMap_append

variable [Ranked κ] [Keyed ρ κ] [DecidableEq κ] {table : Memory → Table ρ} {s : Memory}

def lasting (entry : Call → Entry ρ κ) : List Call → ρ → Option ρ
  | [], row => some row
  | c :: later, row => ((entry c).fate row).bind (lasting entry later)

theorem key_of_lasting (h : Chronicle table entry) {cs : List Call} {row left : ρ}
    (hleft : lasting entry cs row = some left) : Keyed.key left = Keyed.key row := by
  induction cs generalizing row with
  | nil => rw [Option.some.inj hleft]
  | cons c cs ih =>
    obtain ⟨next, hnext, hleft⟩ := Option.bind_eq_some_iff.1 hleft
    exact (ih hleft).trans (Entry.key_of_fate (h.keys c) hnext)

variable {op : Operation}

theorem rows_call (h : Chronicle table entry) (hnumbers : (table s).UpTo s.created)
    (hroom : (op.call s).after.created < 2147483647) :
    (table (op.call s).after).rows =
      (table s).rows.filterMap (entry (op.call s)).fate ++ (entry (op.call s)).entered?.toList := by
  rw [h.revised]
  apply Entry.rows_revise (h.keys _)
  intro new hnew row hrow
  obtain ⟨hcreated, hplace⟩ := h.numbered op s new hnew
  rw [hplace (by omega)]
  exact Int.lt_add_one_of_le (hnumbers row hrow)

theorem upTo_call (h : Chronicle table entry) (hnumbers : (table s).UpTo s.created)
    (hroom : (op.call s).after.created < 2147483647) :
    (table (op.call s).after).UpTo (op.call s).after.created := by
  intro row hrow
  rw [h.rows_call hnumbers hroom, List.mem_append, Option.mem_toList] at hrow
  rcases hrow with hrow | hnew
  · obtain ⟨old, hold, hrow⟩ := List.mem_filterMap.1 hrow
    have hplace : place row = place old :=
      congrArg Ranked.rank (Entry.key_of_fate (h.keys _) hrow)
    have hle := hnumbers old hold
    have hgrows := created_le_call op s
    omega
  · obtain ⟨hcreated, hplace⟩ := h.numbered op s row hnew
    rw [hplace (by omega), hcreated]
    exact Int.le_refl _

theorem upTo_empty (h : Chronicle table entry) : (table .empty).UpTo Memory.empty.created := by
  rw [h.initial]
  exact fun _ hrow => absurd hrow List.not_mem_nil

theorem upTo_serve (h : Chronicle table entry) (ops : List Operation)
    (hnumbers : (table s).UpTo s.created) (hfits : (serve ops s).created < 2147483647) :
    (table (serve ops s)).UpTo (serve ops s).created :=
  serve_induction (P := fun s => (table s).UpTo s.created)
    (fun _ _ (_ : True) hs hroom => h.upTo_call hs hroom) ops (fun _ _ => trivial) hnumbers hfits

/-- The rows that were there as the calls have left them, and behind them those that the calls have
entered. -/
theorem rows_serve (h : Chronicle table entry) (ops : List Operation)
    (hnumbers : (table s).UpTo s.created) (hfits : (serve ops s).created < 2147483647) :
    (table (serve ops s)).rows = (table s).rows.filterMap (lasting entry (calls ops s)) ++
      standing entry (lasting entry) (calls ops s) := by
  induction ops generalizing s with
  | nil =>
    have hkept : (table s).rows.filterMap (lasting entry []) = (table s).rows := List.filterMap_some
    rw [calls, hkept, standing, List.append_nil, serve]
  | cons op ops ih =>
    have hroom : (op.call s).after.created < 2147483647 :=
      Nat.lt_of_le_of_lt (created_le_serve ops _) hfits
    rw [serve, ih (h.upTo_call hnumbers hroom) hfits, h.rows_call hnumbers hroom,
      List.filterMap_append, List.filterMap_filterMap, filterMap_toList, List.append_assoc]
    rfl

theorem rows_of_empty (h : Chronicle table entry) (ops : List Operation)
    (hfits : (serve ops empty).created < 2147483647) :
    (table (serve ops empty)).rows = standing entry (lasting entry) (calls ops empty) := by
  rw [h.rows_serve ops h.upTo_empty hfits, h.initial]
  rfl

theorem place_of_entered (h : Chronicle table entry) {ops : List Operation}
    (hfits : (serve ops s).created < 2147483647) {new : ρ}
    (hnew : new ∈ entered entry (calls ops s)) :
    s.created < place new ∧ place new ≤ (serve ops s).created := by
  induction ops generalizing s with
  | nil => exact absurd hnew List.not_mem_nil
  | cons op ops ih =>
    have hgrows := created_le_serve ops (op.call s).after
    rw [serve] at hfits ⊢
    rw [calls, entered_cons, List.mem_append] at hnew
    rcases hnew with hnew | hnew
    · obtain ⟨hcreated, hplace⟩ := h.numbered op s new (Option.mem_toList.1 hnew)
      rw [hplace (by omega)]
      omega
    · have hrest := ih hfits hnew
      have hfirst := created_le_call op s
      omega

/-- The rows are entered in the order of their keys. -/
theorem inOrder_entered (h : Chronicle table entry) {ops : List Operation}
    (hfits : (serve ops s).created < 2147483647) : InOrder (entered entry (calls ops s)) := by
  induction ops generalizing s with
  | nil => exact List.Pairwise.nil
  | cons op ops ih =>
    have hgrows := created_le_serve ops (op.call s).after
    rw [serve] at hfits
    rw [calls, entered_cons]
    cases hnew : (entry (op.call s)).entered? with
    | none => exact ih hfits
    | some new =>
      refine inOrder_cons.2 ⟨fun later hlater => ?_, ih hfits⟩
      obtain ⟨hcreated, hplace⟩ := h.numbered op s new hnew
      have hbeyond := (h.place_of_entered hfits hlater).1
      rw [hplace (by omega)]
      omega

/-- A row is what was entered under its key, as some calls have left it. -/
theorem exists_lasting (h : Chronicle table entry) {ops : List Operation}
    (hfits : (serve ops empty).created < 2147483647) {new row : ρ}
    (hnew : new ∈ entered entry (calls ops empty)) (hrow : row ∈ (table (serve ops empty)).rows)
    (hkey : Keyed.key row = Keyed.key new) : ∃ later, lasting entry later new = some row := by
  rw [h.rows_of_empty ops hfits] at hrow
  obtain ⟨new', hnew', later, hlater⟩ := exists_entered hrow
  have hplace : place new' = place new :=
    congrArg Ranked.rank ((h.key_of_lasting hlater).symm.trans hkey)
  rw [eq_of_place_eq (h.inOrder_entered hfits) hnew' hnew hplace] at hlater
  exact ⟨later, hlater⟩

theorem keys_sublist (h : Chronicle table entry) (cs : List Call) :
    ((standing entry (lasting entry) cs).map Keyed.key).Sublist
      ((entered entry cs).map Keyed.key) := by
  induction cs with
  | nil => exact List.Sublist.slnil
  | cons c later ih =>
    rw [standing, entered_cons]
    cases (entry c).entered? with
    | none => exact ih
    | some new =>
      rw [Option.bind_some]
      cases hlater : lasting entry later new with
      | none => exact ih.cons _
      | some row =>
        rw [Option.toList_some, Option.toList_some, List.singleton_append, List.singleton_append,
          List.map_cons, List.map_cons, h.key_of_lasting hlater]
        exact ih.cons_cons _

/-- Of the rows that were there earlier, a later list holds only such as an earlier list held, and
in their order, if what is listed later was unaltered and listed earlier. -/
theorem survivors_sublist (h : Chronicle table entry) {listed relisted : ρ → Bool}
    (hlisted : ∀ later row left, lasting entry later row = some left → relisted left = true →
      left = row ∧ listed row = true) (first later : List Operation)
    (hfits : (serve (first ++ later) empty).created < 2147483647) :
    (((table (serve (first ++ later) empty)).rows.filter relisted).filter fun row =>
      decide (Keyed.key row ∈ (entered entry (calls first empty)).map Keyed.key)).Sublist
        ((table (serve first empty)).rows.filter listed) := by
  rw [serve_append] at hfits ⊢
  have hfirst : (serve first empty).created < 2147483647 :=
    Nat.lt_of_le_of_lt (created_le_serve later _) hfits
  -- What the later calls enter has a number beyond those of all rows that were there earlier.
  have hnew : ((standing entry (lasting entry) (calls later (serve first empty))).filter
      relisted).filter (fun row =>
        decide (Keyed.key row ∈ (entered entry (calls first empty)).map Keyed.key)) = [] := by
    refine List.filter_eq_nil_iff.2 fun row hrow hknown => ?_
    obtain ⟨new, hnew, _, hlater⟩ := exists_entered (List.mem_of_mem_filter hrow)
    obtain ⟨known, hknown, hkey⟩ := List.mem_map.1 (of_decide_eq_true hknown)
    have hplace : place known = place new :=
      congrArg Ranked.rank (hkey.trans (h.key_of_lasting hlater))
    have hearly := (h.place_of_entered hfirst hknown).2
    have hlate := (h.place_of_entered hfits hnew).1
    omega
  rw [h.rows_serve later (h.upTo_serve first h.upTo_empty hfirst) hfits, List.filter_append,
    List.filter_append, hnew, List.append_nil]
  exact List.filter_sublist.trans (filter_filterMap_sublist (hlisted _) _)

end Chronicle

end Loyalty
