import Loyalty.Proofs.Enrolment
import Loyalty.Proofs.Revisions

/-!
# The records of accounts

An account stays as its registration has returned it, up to its type, which is the one that it was
last given. All lookups show it so. Emails tell the accounts apart, so an email and a digest lead to
the one account that has both, if there is one.
-/

namespace Loyalty

open Memory Chronicle

def Call.retypes? (id : UserId) (c : Call) : Option AccountType :=
  match c.op, c.answer with
  | .setAccountType named accountType, .ok _ => if named = id then some accountType else none
  | _, _ => none

/-- An account after some calls: it has the type that it was last given. -/
def User.after (later : List Call) (u : User) : User :=
  { u with
    accountType := ((later.filterMap (Call.retypes? u.id)).getLast?).getD u.accountType }

namespace Call

theorem fate_user (c : Call) (u : User) :
    c.userEntry.fate u = some { u with accountType := (c.retypes? u.id).getD u.accountType } := by
  obtain ⟨op, before, answer, after⟩ := c
  cases op with
  | register input =>
    cases answer with
    | error e => rfl
    | ok reply => cases reply <;> rfl
  | setAccountType named accountType =>
    cases answer with
    | error e => rfl
    | ok reply =>
      change some (if u.id = named then _ else u) = _
      dsimp only [retypes?]
      by_cases hid : named = u.id
      · rw [if_pos hid.symm, if_pos hid, Option.getD_some]
      · rw [if_neg (Ne.symm hid), if_neg hid, Option.getD_none]
  | _ => rfl

end Call

theorem User.after_cons (c : Call) (later : List Call) (u : User) :
    u.after (c :: later) =
      User.after later { u with accountType := (c.retypes? u.id).getD u.accountType } := by
  unfold User.after
  cases htype : c.retypes? u.id with
  | none => rw [List.filterMap_cons_none htype, Option.getD_none]
  | some accountType =>
    rw [List.filterMap_cons_some htype, List.getLast?_cons, Option.getD_some, Option.getD_some]

theorem lasting_user (later : List Call) (u : User) :
    lasting Call.userEntry later u = some (u.after later) := by
  induction later generalizing u with
  | nil => rfl
  | cons c later ih => rw [lasting, Call.fate_user, Option.bind_some, ih, User.after_cons]

/-- A registration among some calls has returned an account, of which this is the form after all of
them. -/
def Call.Holds (cs : List Call) (u : User) : Prop :=
  ∃ before c later input user, cs = before ++ c :: later ∧ c.op = .register input ∧
    c.answer = .ok (.user user) ∧ u = user.after later

namespace Memory

variable {s : Memory} {u : User}

theorem mem_users_serve {ops : List Operation} (hfits : (serve ops empty).created < 2147483647) :
    u ∈ (serve ops empty).users.rows ↔ Call.Holds (calls ops empty) u := by
  rw [Call.chronicle_users.rows_of_empty ops hfits, mem_standing]
  constructor
  · rintro ⟨before, c, later, user, hsplit, hnew, hlater⟩
    obtain ⟨input, hop, hanswer⟩ := Call.userEntry_eq_some_iff.1 hnew
    rw [lasting_user] at hlater
    exact ⟨before, c, later, input, user, hsplit, hop, hanswer, (Option.some.inj hlater).symm⟩
  · rintro ⟨before, c, later, input, user, hsplit, hop, hanswer, rfl⟩
    exact ⟨before, c, later, user, hsplit, Call.userEntry_eq_some_iff.2 ⟨input, hop, hanswer⟩,
      lasting_user later user⟩

theorem Peopled.call (h : s.Peopled) (op : Operation) : (op.call s).after.Peopled :=
  op.onlyAsks_script.run h fun s r hs _ => hs.step (change_handle s r)

theorem Peopled.serve (h : s.Peopled) (ops : List Operation) : (serve ops s).Peopled :=
  serve_invariant (fun op _ hs => hs.call op) ops h

/-- An email and a digest lead to the account that has both. -/
theorem Peopled.findUserByCredentials_eq_some_iff (h : s.Peopled) {email digest : String} :
    s.findUserByCredentials email digest = some u ↔
      u ∈ s.users.rows ∧ u.email = email ∧ u.passwordDigest = digest := by
  have htest : ∀ v : User, (v.email == email && v.passwordDigest == digest) = true ↔
      v.email = email ∧ v.passwordDigest = digest := by simp
  rw [findUserByCredentials, find?_eq_some_iff_of_unique, htest]
  intro v hv w hw hpv hpw
  exact h.emails v hv w hw (((htest v).1 hpv).1.trans ((htest w).1 hpw).1.symm)

end Memory

theorem Accounts.run_get {s : Memory} {id : UserId} {u : User} (h : s.users.find? id = some u) :
    (Accounts.get id).run handle s = (.ok u, s) := by
  have hanswer : handle (.findUser id) s = (.ok (some u), s) := by
    rw [← h]
    rfl
  exact Script.run_ask_bind hanswer

namespace Memory

structure ShowsAccount (s : Memory) (u : User) : Prop where
  stored : s.users.find? u.id = some u
  get : ((Operation.getUser u.id).call s).answer = .ok (.user u)
  lookup : ((Operation.getProfile u.id).call s).answer = .ok (.profile ⟨u.id, u.name, u.email⟩)
  displayName : ((Operation.getDisplayName u.id).call s).answer = .ok (.name u.name)

theorem showsAccount_of_mem {s : Memory} {u : User} (h : u ∈ s.users.rows) : s.ShowsAccount u := by
  have hfound : s.users.find? u.id = some u := Table.find?_eq_some_iff.2 ⟨h, rfl⟩
  refine ⟨hfound, ?_, ?_, ?_⟩
  · rw [Operation.call, Operation.script, Script.run_relabel, Accounts.run_get hfound]
    rfl
  · rw [Operation.call, Operation.script, Script.run_relabel, Accounts.profile, Script.bind_eq,
      Script.run_bind, Accounts.run_get hfound]
    rfl
  · rw [Operation.call, Operation.script, Script.run_relabel, Accounts.displayName, Script.bind_eq,
      Script.run_bind, Accounts.run_get hfound]
    rfl

theorem account_of_registration {s : Memory} {input : Registration} {user : User}
    (h : ((Operation.register input).call s).answer = .ok (.user user)) :
    user = input.account.withId user.id := by
  have hrevises : (Operation.register input).revises = true := rfl
  have hwrites := Call.writes_call hrevises s
  have hop : ((Operation.register input).call s).op = .register input := rfl
  generalize (Operation.register input).call s = c at *
  cases hwrites with
  | registers huser =>
    cases hop
    cases h
    rw [huser]
    rfl
  | _ => cases h

/-- After any sequence of calls, an account that a registration has returned is the one that the
registration asked for, and is still shown as it was returned, with the type that it was last given.
Whatever the email and the digest, authentication finds just the account that has both, in its
present form, and none if there is none. -/
theorem accounts_kept (ops : List Operation) (hfits : (serve ops empty).created < 2147483647) :
    (∀ before c later input user, calls ops empty = before ++ c :: later →
      c.op = .register input → c.answer = .ok (.user user) →
        user = input.account.withId user.id ∧ (serve ops empty).ShowsAccount (user.after later)) ∧
      ∀ email digest : String, ∃ found : Option User,
        ((Operation.authenticate email digest).call (serve ops empty)).answer =
            .ok (.userIfAny found) ∧
          (∀ u, found = some u ↔
            Call.Holds (calls ops empty) u ∧ u.email = email ∧ u.passwordDigest = digest) ∧
          (found = none ↔ ¬ ∃ u,
            Call.Holds (calls ops empty) u ∧ u.email = email ∧ u.passwordDigest = digest) := by
  refine ⟨?_, ?_⟩
  · intro before c later input user hsplit hop hanswer
    refine ⟨?_, showsAccount_of_mem ((mem_users_serve hfits).2
      ⟨before, c, later, input, user, hsplit, hop, hanswer, rfl⟩)⟩
    obtain ⟨s, hc⟩ := exists_call_of_split hsplit
    rw [hop] at hc
    rw [hc] at hanswer
    exact account_of_registration hanswer
  · intro email digest
    have hfound : ∀ u, (serve ops empty).findUserByCredentials email digest = some u ↔
        Call.Holds (calls ops empty) u ∧ u.email = email ∧ u.passwordDigest = digest := by
      intro u
      rw [(peopled_empty.serve ops).findUserByCredentials_eq_some_iff, mem_users_serve hfits]
    refine ⟨_, rfl, hfound, ?_⟩
    rw [Option.eq_none_iff_forall_ne_some, not_exists]
    exact forall_congr' fun u => not_congr (hfound u)

/-- Ada tries to register twice, and changes her type twice; Bob has her digest. -/
def promotions : List Operation :=
  let ada : Registration := ⟨"Ada", "ada@example.com", "digest", "digest", .customer⟩
  [.register ada, .register ada, .createRestaurant ⟨"Corner", "1 Main Street"⟩,
    .setAccountType ⟨1⟩ .employee, .setAccountType ⟨2⟩ .adminEmployee, .setAccountType ⟨1⟩ .owner,
    .register ⟨"Bob", "bob@example.com", "digest", "digest", .customer⟩]

theorem promotions_kept :
    (serve promotions empty).ShowsAccount
        ⟨⟨1⟩, "Ada", "ada@example.com", "digest", .owner⟩ ∧
      ∃ found, ((Operation.authenticate "ada@example.com" "digest").call
          (serve promotions empty)).answer = .ok (.userIfAny found) ∧
        found = some ⟨⟨1⟩, "Ada", "ada@example.com", "digest", .owner⟩ := by
  have hfits : (serve promotions empty).created < 2147483647 := by decide
  obtain ⟨hkept, hexact⟩ := accounts_kept promotions hfits
  obtain ⟨-, hshown⟩ := hkept [] _ _ _ ⟨⟨1⟩, "Ada", "ada@example.com", "digest", .customer⟩ rfl rfl
    (by decide)
  obtain ⟨found, hanswer, hfound, -⟩ := hexact "ada@example.com" "digest"
  refine ⟨hshown, found, hanswer, (hfound _).2 ⟨?_, rfl, rfl⟩⟩
  exact ⟨[], _, _, _, ⟨⟨1⟩, "Ada", "ada@example.com", "digest", .customer⟩, rfl, rfl, by decide,
    by decide⟩

end Memory

end Loyalty
