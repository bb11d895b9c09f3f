import Loyalty.Proofs.Columns
import Loyalty.Proofs.MappedTables
import Loyalty.Proofs.Overflow
import Loyalty.Proofs.Requests
import Loyalty.Proofs.TableSteps
import Mathlib.Data.List.Forall2

/-!
# The same balances in both stores

The store in memory checks each sum before it writes. The relational store writes whole numbers that
are wider than amounts, reads them back, and is undone where they are none. Asked the same about
balances, and starting without any, both give the same answers, refuse the same requests, and hold
the same balances: what is stored on one side are the columns of what is stored on the other.
-/

namespace Loyalty

namespace BalanceRow

def debited (row : BalanceRow) (points : Amount) : BalanceRow :=
  { row with points := row.points - points.toInt }

theorem fits_columns (b : Balance) : b.columns.Fits := ⟨b.points.bounds, b.experience.bounds⟩

/-- What fits are the columns of a balance. -/
theorem exists_columns {row : BalanceRow} (h : row.Fits) : ∃ b : Balance, b.columns = row := by
  obtain ⟨b, -, hpoints, hexperience⟩ := read_of_fits h
  refine ⟨⟨row.userId, row.restaurantId, b.points, b.experience⟩, ?_⟩
  rw [Balance.columns, hpoints, hexperience]

end BalanceRow

namespace Memory

variable {b after : Balance} {points experience rest : Amount}

theorem credited?_eq_some_iff :
    credited? b points experience = some after ↔
      after.columns = b.columns.credited points experience := by
  constructor
  · intro h
    obtain ⟨hpoints, hexperience⟩ := toInt_of_credited? h
    have hkey : (after.userId, after.restaurantId) = (b.userId, b.restaurantId) :=
      key_of_credited? h
    rw [Prod.mk.injEq] at hkey
    rw [Balance.columns, hpoints, hexperience, hkey.1, hkey.2]
    rfl
  · intro h
    obtain ⟨userId, restaurantId, p, e⟩ := after
    simp only [Balance.columns, BalanceRow.credited, BalanceRow.mk.injEq] at h
    obtain ⟨rfl, rfl, hpoints, hexperience⟩ := h
    simp only [credited?, Amount.add?, Amount.ofInt?_eq_some_iff.2 hpoints,
      Amount.ofInt?_eq_some_iff.2 hexperience]
    rfl

theorem credited?_eq_none_iff :
    credited? b points experience = none ↔ ¬ (b.columns.credited points experience).Fits := by
  cases h : credited? b points experience with
  | some after =>
    have hfits : (b.columns.credited points experience).Fits := by
      rw [← credited?_eq_some_iff.1 h]
      exact BalanceRow.fits_columns after
    simp [hfits]
  | none =>
    simp only [true_iff]
    intro hfits
    obtain ⟨after, hafter⟩ := BalanceRow.exists_columns hfits
    rw [credited?_eq_some_iff.2 hafter] at h
    cases h

theorem sub?_eq_some_iff :
    b.points.sub? points = some rest ↔
      ({ b with points := rest } : Balance).columns = b.columns.debited points := by
  rw [Amount.sub?, Amount.ofInt?_eq_some_iff]
  simp [Balance.columns, BalanceRow.debited]

theorem sub?_eq_none_iff : b.points.sub? points = none ↔ ¬ (b.columns.debited points).Fits := by
  rw [Amount.sub?, Amount.ofInt?_eq_none_iff]
  constructor
  · intro h hfits
    have hpoints := hfits.points
    simp only [BalanceRow.debited, Balance.columns] at hpoints
    omega
  · intro h
    by_cases hpoints : (b.columns.debited points).points < -2147483648 ∨
        2147483647 < (b.columns.debited points).points
    · exact hpoints
    · exact absurd ⟨by omega, (BalanceRow.fits_columns b).experience⟩ h

end Memory

namespace Relational

variable {t : Relational} {row : BalanceRow}

theorem commitBalance_columns {b : Balance} (h : b.columns = row) (t : Relational) :
    t.commitBalance row = (.ok b, { t with balances := t.balances.put row }) := by
  rw [commitBalance, ← h, Balance.read_columns]

theorem commitBalance_of_not_fits (h : ¬ row.Fits) (t : Relational) :
    ∃ e : StoreError, t.commitBalance row = (.error e, t) ∧ e.kind = .backend := by
  obtain ⟨column, fault, hread⟩ := BalanceRow.read_of_not_fits h
  exact ⟨.unreadableBalance column fault, by rw [commitBalance, hread], rfl⟩

end Relational

namespace Request

/-- A request about balances. A credit is for a user and a restaurant that there are. -/
def OnBalances (t : Relational) : Request → Prop
  | .findBalance .. => True
  | .listBalances _ => True
  | .credit userId restaurantId _ _ =>
    (t.users.find? userId).isSome ∧ (t.restaurants.find? restaurantId).isSome
  | .debit .. => True
  | _ => False

/-- In whole numbers, a credit would leave the range of amounts in one of its sums, or a debit that
is covered would in its difference. -/
def Overflows (s : Memory) : Request → Prop
  | .credit userId restaurantId points experience =>
    ¬ ((s.balanceOf userId restaurantId).columns.credited points experience).Fits
  | .debit userId restaurantId points =>
    ∃ b, s.balances.find? (userId, restaurantId) = some b ∧ ¬ b.points < points ∧
      ¬ (b.columns.debited points).Fits
  | _ => False

theorem overflows_debit_iff {s : Memory} {userId : UserId} {restaurantId : RestaurantId}
    {points : Amount} {b : Balance} (h : s.balances.find? (userId, restaurantId) = some b) :
    Overflows s (.debit userId restaurantId points) ↔
      ¬ b.points < points ∧ ¬ (b.columns.debited points).Fits := by
  constructor
  · rintro ⟨b', hb', hover⟩
    rw [h] at hb'
    cases hb'
    exact hover
  · intro hover
    exact ⟨b, h, hover⟩

end Request

/-- The answer is an error of the store itself, which stays as it is. -/
def Handler.Refuses {σ : Type} (handle : Handler σ) (r : Request) (s : σ) : Prop :=
  ∃ e : StoreError, handle r s = (.error e, s) ∧ e.kind = .backend

/-- The same answer to the same request, or an error of the store itself on both sides. -/
inductive Exchange.Agrees : Exchange → Exchange → Prop
  | answered {r : Request} (a : r.Answer) : Agrees ⟨r, .ok a⟩ ⟨r, .ok a⟩
  | refused {r : Request} {e e' : StoreError} (he : e.kind = .backend) (he' : e'.kind = .backend) :
      Agrees ⟨r, .error e⟩ ⟨r, .error e'⟩

def SameBalances (s : Memory) (t : Relational) : Prop :=
  t.balances = s.balances.map Balance.columns Balance.key_columns

inductive Answers (r : Request) (s : Memory) (t : Relational) : Prop
  | refused (hover : r.Overflows s) (hs : Memory.handle.Refuses r s)
      (ht : Relational.handle.Refuses r t)
  | answered (hover : ¬ r.Overflows s) {a : r.Answer} {s' : Memory} {t' : Relational}
      (hs : Memory.handle r s = (.ok a, s')) (ht : Relational.handle r t = (.ok a, t'))
      (hsame : SameBalances s' t') (husers : t'.users = t.users)
      (hrestaurants : t'.restaurants = t.restaurants)

namespace SameBalances

variable {s : Memory} {t : Relational} {userId : UserId} {restaurantId : RestaurantId}

theorem find? (h : SameBalances s t) :
    t.balances.find? (userId, restaurantId) =
      (s.balances.find? (userId, restaurantId)).map Balance.columns := by
  rw [h, Table.find?_map]

theorem held (h : SameBalances s t) :
    t.held userId restaurantId = (s.balanceOf userId restaurantId).columns := by
  rw [Relational.held, Memory.balanceOf, h.find?]
  cases s.balances.find? (userId, restaurantId) <;> rfl

theorem put (h : SameBalances s t) (b : Balance) :
    SameBalances { s with balances := s.balances.put b }
      { t with balances := t.balances.put b.columns } := by
  rw [SameBalances, h]
  exact Table.put_map _ b

theorem findBalance (h : SameBalances s t) :
    t.findBalance userId restaurantId = .ok (s.balances.find? (userId, restaurantId)) := by
  rw [Relational.findBalance, h.find?, readRow_columns Balance.read_columns]

theorem listBalances (h : SameBalances s t) :
    t.listBalances userId = .ok (s.listBalances userId) := by
  rw [Relational.listBalances, h, Table.rows_map, List.filter_map,
    readRows_columns Balance.read_columns]
  rfl

theorem credit (h : SameBalances s t) (points experience : Amount)
    (hknown : (t.users.find? userId).isSome ∧ (t.restaurants.find? restaurantId).isSome) :
    Answers (.credit userId restaurantId points experience) s t := by
  have hreferenced : ¬ t.Unreferenced userId restaurantId := by
    rintro ⟨-, hmissing | hmissing⟩ <;> simp [hmissing] at hknown
  have hrow := Relational.creditedRow_of_referenced points experience hreferenced
  rw [h.held] at hrow
  cases hcredit : Memory.credited? (s.balanceOf userId restaurantId) points experience with
  | none =>
    have hover : Request.Overflows s (.credit userId restaurantId points experience) :=
      Memory.credited?_eq_none_iff.1 hcredit
    have hs : Memory.handle.Refuses (.credit userId restaurantId points experience) s := by
      exact ⟨.balanceOutOfRange, by rw [Memory.handle, Memory.credit, hcredit], rfl⟩
    have ht : Relational.handle.Refuses (.credit userId restaurantId points experience) t := by
      rw [Handler.Refuses, Relational.handle, Relational.credit, hrow]
      exact Relational.commitBalance_of_not_fits hover t
    exact .refused hover hs ht
  | some after =>
    have hcolumns := Memory.credited?_eq_some_iff.1 hcredit
    have hin : ¬ Request.Overflows s (.credit userId restaurantId points experience) := by
      intro hover
      rw [Memory.credited?_eq_none_iff.2 hover] at hcredit
      cases hcredit
    have hs : Memory.handle (.credit userId restaurantId points experience) s =
        (.ok after, { s with balances := s.balances.put after }) := by
      rw [Memory.handle, Memory.credit, hcredit]
    have ht : Relational.handle (.credit userId restaurantId points experience) t =
        (.ok after, { t with balances := t.balances.put after.columns }) := by
      rw [Relational.handle, Relational.credit, hrow, hcolumns]
      exact Relational.commitBalance_columns hcolumns t
    exact .answered hin hs ht (h.put after) rfl rfl

theorem debit_absent (h : SameBalances s t) (points : Amount)
    (hfound : s.balances.find? (userId, restaurantId) = none) :
    Answers (.debit userId restaurantId points) s t := by
  have hrow : t.balances.find? (userId, restaurantId) = none := by rw [h.find?, hfound, Option.map]
  have hin : ¬ Request.Overflows s (.debit userId restaurantId points) := by
    rintro ⟨b, hb, -⟩
    rw [hfound] at hb
    cases hb
  have hs : Memory.handle (.debit userId restaurantId points) s = (.ok none, s) := by
    rw [Memory.handle, Memory.debit, hfound]
  have ht : Relational.handle (.debit userId restaurantId points) t = (.ok none, t) := by
    rw [Relational.handle, Relational.debit, hrow]
  exact .answered hin hs ht h rfl rfl

theorem debit_short (h : SameBalances s t) {b : Balance} {points : Amount}
    (hfound : s.balances.find? (userId, restaurantId) = some b) (hshort : b.points < points) :
    Answers (.debit userId restaurantId points) s t := by
  have hrow : t.balances.find? (userId, restaurantId) = some b.columns := by
    rw [h.find?, hfound, Option.map]
  have hin : ¬ Request.Overflows s (.debit userId restaurantId points) := by
    rw [Request.overflows_debit_iff hfound]
    exact fun hover => hover.1 hshort
  have hs : Memory.handle (.debit userId restaurantId points) s = (.ok none, s) := by
    rw [Memory.handle, Memory.debit, hfound]
    exact if_pos hshort
  have ht : Relational.handle (.debit userId restaurantId points) t = (.ok none, t) := by
    rw [Relational.handle, Relational.debit, hrow]
    exact if_pos (Int32.lt_iff_toInt_lt.1 hshort)
  exact .answered hin hs ht h rfl rfl

/-- A debit that the stored points cover is made where the rest is an amount. -/
theorem debit_covered (h : SameBalances s t) {b : Balance} {points : Amount}
    (hfound : s.balances.find? (userId, restaurantId) = some b) (hcovered : ¬ b.points < points) :
    Answers (.debit userId restaurantId points) s t := by
  have hrow : t.balances.find? (userId, restaurantId) = some b.columns := by
    rw [h.find?, hfound, Option.map]
  have hcolumns : ¬ b.columns.points < points.toInt := by rwa [Int32.lt_iff_toInt_lt] at hcovered
  cases hrest : b.points.sub? points with
  | none =>
    have hfits := Memory.sub?_eq_none_iff.1 hrest
    have hover : Request.Overflows s (.debit userId restaurantId points) :=
      (Request.overflows_debit_iff hfound).2 ⟨hcovered, hfits⟩
    have hs : Memory.handle.Refuses (.debit userId restaurantId points) s := by
      refine ⟨.balanceOutOfRange, ?_, rfl⟩
      simp only [Memory.handle, Memory.debit, hfound, if_neg hcovered, hrest]
    have ht : Relational.handle.Refuses (.debit userId restaurantId points) t := by
      obtain ⟨e, hcommit, he⟩ := Relational.commitBalance_of_not_fits hfits t
      refine ⟨e, ?_, he⟩
      rw [BalanceRow.debited] at hcommit
      simp only [Relational.handle, Relational.debit, hrow, if_neg hcolumns, hcommit]
    exact .refused hover hs ht
  | some rest =>
    have hfits := Memory.sub?_eq_some_iff.1 hrest
    have hin : ¬ Request.Overflows s (.debit userId restaurantId points) := by
      rw [Request.overflows_debit_iff hfound, ← Memory.sub?_eq_none_iff, hrest]
      simp
    have hs : Memory.handle (.debit userId restaurantId points) s =
        (.ok (some { b with points := rest }),
          { s with balances := s.balances.put { b with points := rest } }) := by
      simp only [Memory.handle, Memory.debit, hfound, if_neg hcovered, hrest]
    have ht : Relational.handle (.debit userId restaurantId points) t =
        (.ok (some { b with points := rest }),
          { t with balances := t.balances.put (Balance.columns { b with points := rest }) }) := by
      have hcommit := Relational.commitBalance_columns hfits t
      rw [hfits]
      rw [BalanceRow.debited] at hcommit ⊢
      simp only [Relational.handle, Relational.debit, hrow, if_neg hcolumns, hcommit]
    exact .answered hin hs ht (h.put _) rfl rfl

/-- What becomes of each request about balances. -/
theorem answers (h : SameBalances s t) {r : Request} (hr : r.OnBalances t) : Answers r s t := by
  cases r with
  | findBalance userId restaurantId =>
    have ht : Relational.handle (.findBalance userId restaurantId) t =
        (.ok (s.balances.find? (userId, restaurantId)), t) := by
      rw [Relational.handle, h.findBalance]
    exact .answered id rfl ht h rfl rfl
  | listBalances userId =>
    have ht : Relational.handle (.listBalances userId) t = (.ok (s.listBalances userId), t) := by
      rw [Relational.handle, h.listBalances]
    exact .answered id rfl ht h rfl rfl
  | credit userId restaurantId points experience => exact h.credit points experience hr
  | debit userId restaurantId points =>
    cases hfound : s.balances.find? (userId, restaurantId) with
    | none => exact h.debit_absent points hfound
    | some b =>
      by_cases hshort : b.points < points
      · exact h.debit_short hfound hshort
      · exact h.debit_covered hfound hshort
  | _ => exact absurd hr id

end SameBalances

namespace Answers

variable {r : Request} {s : Memory} {t : Relational}

theorem agrees (h : Answers r s t) :
    Exchange.Agrees ⟨r, (Memory.handle r s).1⟩ ⟨r, (Relational.handle r t).1⟩ := by
  cases h with
  | refused hover hs ht =>
    obtain ⟨e, hs, he⟩ := hs
    obtain ⟨e', ht, he'⟩ := ht
    rw [hs, ht]
    exact .refused he he'
  | answered hover hs ht hsame husers hrestaurants =>
    rw [hs, ht]
    exact .answered _

theorem sameBalances (h : Answers r s t) (hsame : SameBalances s t) :
    SameBalances (Memory.handle r s).2 (Relational.handle r t).2 := by
  cases h with
  | refused hover hs ht =>
    obtain ⟨e, hs, he⟩ := hs
    obtain ⟨e', ht, he'⟩ := ht
    rwa [hs, ht]
  | answered hover hs ht hafter husers hrestaurants => rwa [hs, ht]

/-- Users and restaurants stay, so the requests that may be made stay the same. -/
theorem onBalances (h : Answers r s t) {later : Request} (hlater : later.OnBalances t) :
    later.OnBalances (Relational.handle r t).2 := by
  cases h with
  | refused hover hs ht =>
    obtain ⟨e, ht, he⟩ := ht
    rwa [ht]
  | answered hover hs ht hafter husers hrestaurants =>
    rw [ht]
    cases later <;> simp_all [Request.OnBalances]

end Answers

namespace SameBalances

variable {s : Memory} {t : Relational}

/-- Requests about balances leave the same balances, and the same requests that may be made. -/
theorem after (h : SameBalances s t) (requests : List Request)
    (hrequests : ∀ r ∈ requests, r.OnBalances t) :
    SameBalances (Memory.handle.after requests s) (Relational.handle.after requests t) ∧
      ∀ later : Request, later.OnBalances t →
        later.OnBalances (Relational.handle.after requests t) := by
  induction requests generalizing s t with
  | nil => exact ⟨h, fun later hlater => hlater⟩
  | cons r rs ih =>
    have hr := h.answers (hrequests r List.mem_cons_self)
    have hrest := ih (hr.sameBalances h) fun later hlater =>
      hr.onBalances (hrequests later (List.mem_cons_of_mem r hlater))
    exact ⟨hrest.1, fun later hlater => hrest.2 later (hr.onBalances hlater)⟩

theorem exchanges (h : SameBalances s t) (requests : List Request)
    (hrequests : ∀ r ∈ requests, r.OnBalances t) :
    List.Forall₂ Exchange.Agrees (Memory.handle.exchanges requests s)
      (Relational.handle.exchanges requests t) := by
  induction requests generalizing s t with
  | nil => exact .nil
  | cons r rs ih =>
    have hr := h.answers (hrequests r List.mem_cons_self)
    exact .cons hr.agrees (ih (hr.sameBalances h) fun later hlater =>
      hr.onBalances (hrequests later (List.mem_cons_of_mem r hlater)))

theorem readRows (h : SameBalances s t) :
    readRows BalanceRow.read t.balances.rows = .ok s.balances.rows := by
  rw [h, Table.rows_map, readRows_columns Balance.read_columns]

end SameBalances

/-- Two stores without balances are asked the same about balances. They give the same answers, or
refuse on both sides; in the end the rows of the one are read as the balances of the other. A
request is refused, and changes nothing in either store, just where a sum or a difference would
leave the range of amounts. -/
theorem balances_agree {s : Memory} {t : Relational} (hs : s.balances = .empty)
    (ht : t.balances = .empty) (requests : List Request)
    (hrequests : ∀ r ∈ requests, r.OnBalances t) :
    List.Forall₂ Exchange.Agrees (Memory.handle.exchanges requests s)
        (Relational.handle.exchanges requests t) ∧
      readRows BalanceRow.read (Relational.handle.after requests t).balances.rows =
        .ok (Memory.handle.after requests s).balances.rows ∧
      ∀ before r later, requests = before ++ r :: later →
        let s' := Memory.handle.after before s
        let t' := Relational.handle.after before t
        (r.Overflows s' → Memory.handle.Refuses r s' ∧ Relational.handle.Refuses r t') ∧
          (¬ r.Overflows s' →
            ∃ a, (Memory.handle r s').1 = .ok a ∧ (Relational.handle r t').1 = .ok a) := by
  have hsame : SameBalances s t := by rw [SameBalances, hs, ht, Table.map_empty]
  refine ⟨hsame.exchanges requests hrequests, (hsame.after requests hrequests).1.readRows, ?_⟩
  rintro before r later rfl
  have hbefore := hsame.after before fun r' hr' => hrequests r' (List.mem_append_left _ hr')
  have hr := hbefore.2 r (hrequests r (List.mem_append_right before List.mem_cons_self))
  cases hbefore.1.answers hr with
  | refused hover hs ht => exact ⟨fun _ => ⟨hs, ht⟩, fun hin => absurd hover hin⟩
  | answered hin hs ht hafter husers hrestaurants =>
    exact ⟨fun hover => absurd hover hin, fun _ => ⟨_, congrArg Prod.fst hs, congrArg Prod.fst ht⟩⟩

def newcomers : List Request :=
  [.createUser ⟨"Ada", "ada@home", "digest", .customer⟩,
    .createRestaurant ⟨"Tea House", "Main Street"⟩, .createRestaurant ⟨"Corner", "Side Street"⟩]

/-- Amounts at the bounds: a full balance, one point too many, a debit that would add a point, a
debit that takes all, and experience below the range. -/
def extremes : List Request :=
  [.debit ⟨1⟩ ⟨2⟩ 1, .credit ⟨1⟩ ⟨2⟩ 2147483647 (-2147483648), .credit ⟨1⟩ ⟨2⟩ 1 0,
    .debit ⟨1⟩ ⟨2⟩ (-1), .debit ⟨1⟩ ⟨2⟩ 2147483647, .credit ⟨1⟩ ⟨2⟩ 0 (-1), .findBalance ⟨1⟩ ⟨2⟩,
    .listBalances ⟨1⟩]

/-- Both stores refuse the same three of these requests. -/
theorem extremes_agree :
    let s := Memory.handle.after newcomers .empty
    let t := Relational.handle.after newcomers .empty
    (∀ r ∈ extremes, r.OnBalances t) ∧
      List.Forall₂ Exchange.Agrees (Memory.handle.exchanges extremes s)
        (Relational.handle.exchanges extremes t) ∧
      (Relational.handle.exchanges extremes t).map (fun x => x.2.isOk) =
        [true, true, false, false, true, false, true, true] := by
  have hknown : ((Relational.handle.after newcomers .empty).users.find? ⟨1⟩).isSome ∧
      ((Relational.handle.after newcomers .empty).restaurants.find? ⟨2⟩).isSome := by decide
  have hextremes : ∀ r ∈ extremes, r.OnBalances (Relational.handle.after newcomers .empty) := by
    simp [extremes, Request.OnBalances, hknown]
  exact ⟨hextremes, (balances_agree rfl rfl extremes hextremes).1, by decide⟩

end Loyalty
