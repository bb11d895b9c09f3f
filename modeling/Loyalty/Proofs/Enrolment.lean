import Loyalty.Proofs.Catalog
import Loyalty.Proofs.Footprint

/-!
# Enrolment

An account is entered by a registration, which ends at once with that account. So every account that
is stored is one that somebody was told of, and whoever was refused has entered none. The store
enters no email twice, whatever order the callers take turns in.
-/

namespace Loyalty

open Memory

theorem Table.eq_of_key_eq {ρ κ : Type} [Ranked κ] [Keyed ρ κ] {t : Table ρ} {a b : ρ}
    (ha : a ∈ t.rows) (hb : b ∈ t.rows) (h : Keyed.key a = Keyed.key b) : a = b := by
  have hfound : t.find? (Keyed.key b) = some a := find?_eq_some_iff.2 ⟨ha, h⟩
  exact Option.some.inj (hfound.symm.trans (find?_eq_some_iff.2 ⟨hb, rfl⟩))

def Exchange.enrolled? : Exchange → Option User
  | ⟨.createUser _, .ok user⟩ => some user
  | _ => none

def enrolmentsIn (past : List Exchange) : List User := past.filterMap Exchange.enrolled?

theorem Exchange.enrolled?_eq_some_iff {x : Exchange} {user : User} :
    x.enrolled? = some user ↔ ∃ input, x = ⟨.createUser input, .ok user⟩ := by
  constructor
  · intro h
    unfold enrolled? at h
    split at h
    · cases h
      exact ⟨_, rfl⟩
    · cases h
  · rintro ⟨input, rfl⟩
    rfl

def Request.enrols : Request → Bool
  | .createUser _ => true
  | _ => false

theorem Exchange.enrolled?_of_enrols {x : Exchange} (h : x.1.enrols = false) :
    x.enrolled? = none := by
  rw [Option.eq_none_iff_forall_ne_some]
  intro user hx
  obtain ⟨input, rfl⟩ := enrolled?_eq_some_iff.1 hx
  cases h

namespace Operation

def enrolments : Operation → Except Refusal Reply → List User
  | .register _, .ok (.user user) => [user]
  | _, _ => []

/-- Only a registration enters an account, its own, and it asks nothing more after that. -/
structure EnrolsOwn (op : Operation) (past : List Exchange) (r : Request) : Prop where
  before : enrolmentsIn past = []
  own : ∀ input, r = .createUser input →
    ∃ registration, op = .register registration ∧ input = registration.account

def TellsEnrolments (op : Operation) (past : List Exchange) (result : Except Refusal Reply) :
    Prop :=
  enrolmentsIn past = op.enrolments result

end Operation

theorem Script.Keeps.without_enrolment {ε α : Type} {past : List Exchange} {p : Script ε α}
    (h : p.Keeps (fun _ r => r.enrols = false) (fun _ _ => True) past)
    (hpast : enrolmentsIn past = []) :
    p.Keeps (fun past r => enrolmentsIn past = [] ∧ r.enrols = false)
      (fun past _ => enrolmentsIn past = []) past := by
  induction p generalizing past with
  | done a => exact hpast
  | fail e => exact hpast
  | call r next ih =>
    refine ⟨⟨hpast, h.1⟩, fun answer hkey => ih answer (h.2 answer hkey) ?_⟩
    rw [enrolmentsIn, List.filterMap_cons_none (Exchange.enrolled?_of_enrols h.1)]
    exact hpast

theorem Achievements.keeps_create_unenrolled (input : NewAchievement) :
    (create input).Keeps (fun _ r => r.enrols = false) (fun _ _ => True) [] := by
  rw [create]
  split
  · trivial
  · refine ⟨rfl, ?_⟩
    rintro (e | achievement) _ <;> trivial

namespace Operation

theorem keeps_without_enrolment (op : Operation)
    (hop : ∀ registration, op ≠ .register registration) :
    op.script.Keeps (fun _ r => r.enrols = false) (fun _ _ => True) [] := by
  have hcreates : op.creates = false →
      op.script.Keeps (fun _ r => r.enrols = false) (fun _ _ => True) [] := by
    intro hcreates
    refine op.keeps_within.mono (fun _ r hr => ?_) fun _ _ _ => trivial
    have hentry := hr.creation
    rw [hcreates] at hentry
    cases r with
    | createUser input => rcases hentry with h | h <;> cases h
    | _ => rfl
  cases op with
  | register input => exact absurd rfl (hop input)
  | createRestaurant input =>
    refine ⟨rfl, ?_⟩
    rintro (e | restaurant) _ <;> trivial
  | createCoupon form =>
    rw [script, Coupons.create]
    split
    · trivial
    · refine ⟨rfl, ?_⟩
      rintro (e | coupon) _ <;> trivial
  | createAchievement input =>
    rw [script, Script.keeps_relabel]
    exact Achievements.keeps_create_unenrolled input
  | createCompactAchievement form =>
    rw [script, Script.keeps_relabel, Achievements.createCompact]
    split
    · trivial
    · exact Achievements.keeps_create_unenrolled _
  | _ => exact hcreates rfl

theorem keeps_enrolments (op : Operation) : op.script.Keeps op.EnrolsOwn op.TellsEnrolments [] := by
  by_cases hop : ∃ registration, op = .register registration
  · obtain ⟨registration, rfl⟩ := hop
    rw [script, Script.keeps_relabel]
    refine ⟨⟨rfl, ?_⟩, ?_⟩
    · rintro input ⟨⟩
    · rintro (e | holder) _
      · rfl
      · dsimp only [Script.bind]
        split
        · rfl
        · refine ⟨⟨rfl, ?_⟩, ?_⟩
          · rintro input ⟨⟩
            exact ⟨registration, rfl, rfl⟩
          · rintro (e | user) _ <;> rfl
  · have hother := fun registration heq => hop ⟨registration, heq⟩
    have hnone : ∀ result, op.enrolments result = [] := by
      intro result
      cases op with
      | register registration => exact absurd rfl (hother registration)
      | _ => rfl
    refine ((op.keeps_without_enrolment hother).without_enrolment rfl).mono ?_ ?_
    · rintro past r ⟨hpast, hr⟩
      refine ⟨hpast, ?_⟩
      rintro input rfl
      cases hr
    · intro past result hpast
      rw [TellsEnrolments, hnone, hpast]

end Operation

namespace Memory

variable {s s' : Memory} {x : Exchange}

namespace Change

theorem mem_users (h : s.Change x s') {u : User} (hu : u ∈ s'.users.rows) :
    x.enrolled? = some u ∨
      ∃ earlier ∈ s.users.rows, ∃ accountType, u = { earlier with accountType := accountType } := by
  cases h with
  | createUser =>
    rcases Table.mem_put.1 hu with rfl | ⟨hu, -⟩
    · exact Or.inl rfl
    · exact Or.inr ⟨u, hu, u.accountType, rfl⟩
  | @setAccountType id accountType user hfound =>
    rcases Table.mem_put.1 hu with rfl | ⟨hu, -⟩
    · exact Or.inr ⟨user, (Table.find?_eq_some_iff.1 hfound).1, accountType, rfl⟩
    · exact Or.inr ⟨u, hu, u.accountType, rfl⟩
  | _ => exact Or.inr ⟨u, hu, u.accountType, rfl⟩

/-- An account that is entered takes the next number, and an email that was free. -/
theorem enrolled (h : s.Change x s') {user : User} (hx : x.enrolled? = some user) :
    user.id.value = s.nextId ∧ s'.created = s.created + 1 ∧ user ∈ s'.users.rows ∧
      ∀ u ∈ s.users.rows, u.email ≠ user.email := by
  obtain ⟨input, rfl⟩ := Exchange.enrolled?_eq_some_iff.1 hx
  cases h with
  | nothing h => cases h
  | createUser hfree huser =>
    subst huser
    exact ⟨rfl, rfl, Table.mem_put.2 (Or.inl rfl), hfree⟩

/-- An account stays, up to its type, unless its number is given out again. -/
theorem user_stays (h : s.Change x s') {u : User} (hu : u ∈ s.users.rows)
    (hnew : s'.created ≠ s.created → u.id.value ≠ s.nextId) :
    ∃ later ∈ s'.users.rows, later.email = u.email := by
  cases h with
  | @createUser input user hfree huser =>
    subst huser
    refine ⟨u, Table.mem_put.2 (Or.inr ⟨hu, ?_⟩), rfl⟩
    exact fun hkey => hnew (Nat.succ_ne_self _) (congrArg UserId.value hkey)
  | @setAccountType id accountType user hfound =>
    by_cases hkey : Keyed.key u = Keyed.key user
    · rw [Table.eq_of_key_eq hu (Table.find?_eq_some_iff.1 hfound).1 hkey]
      exact ⟨_, Table.mem_put.2 (Or.inl rfl), rfl⟩
    · exact ⟨u, Table.mem_put.2 (Or.inr ⟨hu, hkey⟩), rfl⟩
  | _ => exact ⟨u, hu, rfl⟩

end Change

/-- Emails tell the accounts apart, and each account has a number that was given out. -/
structure Peopled (s : Memory) : Prop where
  emails : ∀ u ∈ s.users.rows, ∀ v ∈ s.users.rows, u.email = v.email → u = v
  numbered : ∀ u ∈ s.users.rows, ∃ n, 1 ≤ n ∧ n ≤ s.created ∧ u.id.value = Int32.ofNat n

theorem Peopled.nodup_emails (h : s.Peopled) : (s.users.rows.map User.email).Nodup := by
  rw [List.Nodup, List.pairwise_map]
  apply s.users.ordered.imp_of_mem
  intro u v hu hv hlt hsame
  obtain rfl := h.emails u hu v hv hsame
  exact Int.lt_irrefl _ hlt

theorem peopled_empty : empty.Peopled where
  emails _ hu := absurd hu List.not_mem_nil
  numbered _ hu := absurd hu List.not_mem_nil

/-- As long as no number is given out again, the next one is that of no account. -/
theorem Peopled.ne_nextId (h : s.Peopled) (hroom : s.created < 4294967296) {u : User}
    (hu : u ∈ s.users.rows) : u.id.value ≠ s.nextId := by
  obtain ⟨n, hlow, hhigh, hid⟩ := h.numbered u hu
  rw [hid, nextId]
  intro hsame
  have hbits := congrArg (fun a : Amount => a.toBitVec.toNat) hsame
  simp only [Int32.toBitVec_ofNat', BitVec.toNat_ofNat] at hbits
  omega

theorem Peopled.step (h : s.Peopled) (hchange : s.Change x s') : s'.Peopled := by
  refine ⟨?_, ?_⟩
  · intro u hu v hv hsame
    rcases hchange.mem_users hu with hu' | ⟨earlier, hearlier, t, rfl⟩
    · rcases hchange.mem_users hv with hv' | ⟨earlier, hearlier, t, rfl⟩
      · exact Option.some.inj (hu'.symm.trans hv')
      · obtain ⟨-, -, -, hfree⟩ := hchange.enrolled hu'
        exact absurd hsame.symm (hfree earlier hearlier)
    · rcases hchange.mem_users hv with hv' | ⟨earlier', hearlier', t', rfl⟩
      · obtain ⟨-, -, -, hfree⟩ := hchange.enrolled hv'
        exact absurd hsame (hfree earlier hearlier)
      · obtain rfl := h.emails earlier hearlier earlier' hearlier' hsame
        exact Table.eq_of_key_eq hu hv rfl
  · intro u hu
    rcases hchange.mem_users hu with hu | ⟨earlier, hearlier, t, rfl⟩
    · obtain ⟨hid, hcreated, -⟩ := hchange.enrolled hu
      exact ⟨s.created + 1, Nat.succ_pos _, Nat.le_of_eq hcreated.symm, hid⟩
    · obtain ⟨n, hlow, hhigh, hid⟩ := h.numbered earlier hearlier
      exact ⟨n, hlow, Nat.le_trans hhigh hchange.created_le, hid⟩

end Memory

namespace World

theorem peopled_run (turns : List Turn) : (run turns).store.Peopled := by
  apply run_invariant (P := fun w => w.store.Peopled) peopled_empty _ turns
  intro w w' h hstep
  cases hstep with
  | idle => exact h
  | start => exact h
  | exchange hcaller hanswer => exact h.step hanswer.change

theorem exists_enrolment (turns : List Turn) : ∀ u ∈ (run turns).store.users.rows,
    ∃ e ∈ (run turns).history, ∃ user, e.exchange.enrolled? = some user ∧
      ∃ accountType, u = { user with accountType := accountType } := by
  apply run_invariant (P := fun w => ∀ u ∈ w.store.users.rows, ∃ e ∈ w.history, ∃ user,
    e.exchange.enrolled? = some user ∧ ∃ accountType, u = { user with accountType := accountType })
    (fun _ hu => absurd hu List.not_mem_nil) _ turns
  intro w w' h hstep
  cases hstep with
  | idle => exact h
  | start => exact h
  | @exchange i op r next a s hcaller hanswer =>
    intro u hu
    rcases hanswer.change.mem_users hu with hnew | ⟨earlier, hearlier, t, rfl⟩
    · exact ⟨_, List.mem_cons_self, u, hnew, u.accountType, rfl⟩
    · obtain ⟨e, he, user, hx, t', rfl⟩ := h earlier hearlier
      exact ⟨e, List.mem_cons_of_mem _ he, user, hx, t, rfl⟩

theorem mem_past {w : World} {e : Event} (h : e ∈ w.history) : e.exchange ∈ w.past e.caller :=
  List.mem_map_of_mem (List.mem_filter.2 ⟨h, by simp⟩)

/-- Whoever has entered an account has ended, and was told of it. -/
theorem told_of_enrolled {op : Operation} {rest : Script Refusal Reply} {past : List Exchange}
    (hkeeps : rest.Keeps op.EnrolsOwn op.TellsEnrolments past) {user : User}
    (h : user ∈ enrolmentsIn past) :
    (∃ registration, op = .register registration) ∧ rest.result? = some (.ok (.user user)) := by
  cases rest with
  | done reply =>
    rw [show enrolmentsIn past = op.enrolments (.ok reply) from hkeeps] at h
    cases op with
    | register registration =>
      cases reply with
      | user told =>
        rw [List.mem_singleton.1 h]
        exact ⟨⟨registration, rfl⟩, rfl⟩
      | _ => exact absurd h List.not_mem_nil
    | _ => exact absurd h List.not_mem_nil
  | fail refusal =>
    rw [show enrolmentsIn past = op.enrolments (.error refusal) from hkeeps] at h
    cases op <;> exact absurd h List.not_mem_nil
  | call r next =>
    rw [hkeeps.1.before] at h
    exact absurd h List.not_mem_nil

/-- Every stored account is one of which a registration has told, up to its type. -/
theorem exists_registration (turns : List Turn) {u : User}
    (hu : u ∈ (run turns).store.users.rows) :
    ∃ c ∈ (run turns).callers, ∃ registration user, c.op = .register registration ∧
      c.result? = some (.ok (.user user)) ∧
      ∃ accountType, u = { user with accountType := accountType } := by
  obtain ⟨e, he, user, hx, t, rfl⟩ := exists_enrolment turns u hu
  have habides := Abides.run Operation.keeps_enrolments turns
  obtain ⟨c, hc⟩ : ∃ c, (run turns).callers[e.caller]? = some c :=
    ⟨_, List.getElem?_eq_getElem (habides.known e he)⟩
  obtain ⟨⟨registration, hop⟩, hresult⟩ := told_of_enrolled (habides.keeps e.caller c hc)
    (List.mem_filterMap.2 ⟨_, mem_past he, hx⟩)
  exact ⟨c, List.mem_of_getElem? hc, registration, user, hop, hresult, t, rfl⟩

theorem enrolmentsIn_of_refused (turns : List Turn) {i : Nat} {c : Caller} {e : Refusal}
    (hc : (run turns).callers[i]? = some c) (hresult : c.result? = some (.error e)) :
    enrolmentsIn ((run turns).past i) = [] := by
  rw [List.eq_nil_iff_forall_not_mem]
  intro user huser
  obtain ⟨-, htold⟩ := told_of_enrolled
    ((Abides.run Operation.keeps_enrolments turns).keeps i c hc) huser
  rw [Caller.result?, htold] at hresult
  cases hresult

end World

end Loyalty
