import Loyalty.Json.Achievement
import Loyalty.Json.Coupon
import Loyalty.Json.Restaurant
import Loyalty.Json.User
import Loyalty.Proofs.MappedTables
import Loyalty.Proofs.UserTable

/-!
# Digests are only compared

Two stores are used alike, but every digest is another one in the second, by a rule that tells
digests apart and keeps the empty one. The stores then differ in the digests of their users only,
and whatever is told of a call is told alike: a digest has no influence but on whether it equals
another, or is missing.
-/

namespace Loyalty

open Memory

def User.redigest (f : String → String) (u : User) : User :=
  { u with passwordDigest := f u.passwordDigest }

def NewUser.redigest (f : String → String) (input : NewUser) : NewUser :=
  { input with passwordDigest := f input.passwordDigest }

def Registration.redigest (f : String → String) (input : Registration) : Registration :=
  { input with digest := f input.digest, repeatedDigest := f input.repeatedDigest }

def Operation.redigest (f : String → String) : Operation → Operation
  | .register input => .register (input.redigest f)
  | .authenticate email passwordDigest => .authenticate email (f passwordDigest)
  | op => op

theorem User.key_redigest (f : String → String) (u : User) :
    Keyed.key (u.redigest f) = Keyed.key u := rfl

def Memory.redigest (f : String → String) (s : Memory) : Memory :=
  s.withUsers (s.users.map (User.redigest f) (User.key_redigest f))

def Reply.toJson : Reply → Json
  | .nothing => .null
  | .user u => u.toJson
  | .userIfAny u => (u.map User.toJson).getD .null
  | .profile p => p.toJson
  | .name text => .string text
  | .restaurant r => r.toJson
  | .restaurantIfAny r => (r.map Restaurant.toJson).getD .null
  | .restaurantId id => id.toJson
  | .coupon c => c.toJson
  | .couponDetails d => d.toJson
  | .coupons cs => .array (cs.map Coupon.toJson)
  | .balance b => b.toJson
  | .balanceIfAny b => (b.map Balance.toJson).getD .null
  | .balances bs => .array (bs.map Balance.toJson)
  | .achievement a => a.toJson
  | .achievements as => .array (as.map Achievement.toJson)
  | .shown as => .array (as.map AchievementProgress.toJson)
  | .row p => p.toJson
  | .rows ps => .array (ps.map Progress.toJson)
  | .reward r => r.toJson
  | .outcome o => o.toJson

/-- What a caller is told: the reply as it is written, or the refusal. -/
def Call.told (c : Call) : Except Refusal Json := c.answer.map Reply.toJson

inductive Corresponds {ε α β : Type} (R : α → β → Prop) : Except ε α → Except ε β → Prop
  | ok {a : α} {b : β} (h : R a b) : Corresponds R (.ok a) (.ok b)
  | error (e : ε) : Corresponds R (.error e) (.error e)

theorem Corresponds.imp {ε α β : Type} {R S : α → β → Prop} {x : Except ε α} {y : Except ε β}
    (h : Corresponds R x y) (hRS : ∀ a b, R a b → S a b) : Corresponds S x y := by
  cases h with
  | ok hab => exact .ok (hRS _ _ hab)
  | error e => exact .error e

/-- The second script makes of a store with other digests what the first makes of the store. -/
def Veils {ε α β : Type} (f : String → String) (R : α → β → Prop) (p : Script ε α)
    (q : Script ε β) : Prop :=
  ∀ s : Memory, Corresponds R (p.run handle s).1 (q.run handle (s.redigest f)).1 ∧
    (q.run handle (s.redigest f)).2 = (p.run handle s).2.redigest f

namespace Veils

variable {ε δ α β γ : Type} {f : String → String} {R : α → β → Prop}

theorem done {a : α} {b : β} (h : R a b) : Veils f R (.done a : Script ε α) (.done b) :=
  fun _ => ⟨.ok h, rfl⟩

theorem fail (e : ε) : Veils f R (.fail e : Script ε α) (.fail e) := fun _ => ⟨.error e, rfl⟩

theorem bind {α' β' : Type} {S : α' → β' → Prop} {p : Script ε α} {q : Script ε β}
    {k : α → Script ε α'} {l : β → Script ε β'} (h : Veils f R p q)
    (hkl : ∀ a b, R a b → Veils f S (k a) (l b)) : Veils f S (p >>= k) (q >>= l) := by
  intro s
  obtain ⟨hresult, hafter⟩ := h s
  rw [Script.bind_eq, Script.bind_eq, Script.run_bind, Script.run_bind]
  generalize p.run handle s = left at *
  generalize q.run handle (s.redigest f) = right at *
  obtain ⟨x, s'⟩ := left
  obtain ⟨y, t'⟩ := right
  dsimp only at hresult hafter
  subst hafter
  cases hresult with
  | ok hab => exact hkl _ _ hab s'
  | error e => exact ⟨.error e, rfl⟩

theorem relabel {α' β' : Type} {S : α' → β' → Prop} {p : Script ε α} {q : Script ε β}
    (h : Veils f R p q) (onError : ε → δ) {g : α → α'} {g' : β → β'}
    (hg : ∀ a b, R a b → S (g a) (g' b)) :
    Veils f S (p.relabel onError g) (q.relabel onError g') := by
  intro s
  obtain ⟨hresult, hafter⟩ := h s
  rw [Script.run_relabel, Script.run_relabel]
  refine ⟨?_, hafter⟩
  generalize (p.run handle s).1 = x at hresult
  generalize (q.run handle (s.redigest f)).1 = y at hresult
  cases hresult with
  | ok hab => exact .ok (hg _ _ hab)
  | error e => exact .error _

theorem mono {S : α → β → Prop} {p : Script ε α} {q : Script ε β} (h : Veils f R p q)
    (hRS : ∀ a b, R a b → S a b) : Veils f S p q := by
  intro s
  obtain ⟨hresult, hafter⟩ := h s
  exact ⟨hresult.imp hRS, hafter⟩

/-- A script that leaves the users alone. -/
theorem of_unaware {p : Script ε α} (h : p.Unaware) : Veils f Eq p p := by
  intro s
  rw [redigest, h.run, redigest, h.users]
  refine ⟨?_, rfl⟩
  rw [besideUsers]
  cases (p.run handle s).1 with
  | ok a => exact .ok rfl
  | error e => exact .error e

/-- A request that the second store answers as the first one does, up to a correspondence. -/
theorem call (r r' : Request) (S : r.Answer → r'.Answer → Prop)
    {next : Except StoreError r.Answer → Script ε α}
    {next' : Except StoreError r'.Answer → Script ε β}
    (hanswer : ∀ s : Memory, Corresponds S (handle r s).1 (handle r' (s.redigest f)).1)
    (hafter : ∀ s : Memory, (handle r' (s.redigest f)).2 = (handle r s).2.redigest f)
    (hnext : ∀ x y, Corresponds S x y → Veils f R (next x) (next' y)) :
    Veils f R (.call r next) (.call r' next') := by
  intro s
  rw [Script.run_call, Script.run_call, hafter]
  exact hnext _ _ (hanswer s) (handle r s).2

theorem ask (r r' : Request) (report : StoreError → ε) (S : r.Answer → r'.Answer → Prop)
    (hanswer : ∀ s : Memory, Corresponds S (handle r s).1 (handle r' (s.redigest f)).1)
    (hafter : ∀ s : Memory, (handle r' (s.redigest f)).2 = (handle r s).2.redigest f) :
    Veils f S (Script.ask report r) (Script.ask report r') := by
  apply call r r' S hanswer hafter
  intro x y hxy
  cases hxy with
  | ok hab => exact done hab
  | error e => exact fail (report e)

end Veils

def Redigested (f : String → String) (u v : User) : Prop := v = u.redigest f

section Users

variable (f : String → String) (s : Memory)

theorem rows_redigest : (s.redigest f).users.rows = s.users.rows.map (User.redigest f) := rfl

theorem findUser_redigest (id : UserId) :
    (s.redigest f).users.find? id = (s.users.find? id).map (User.redigest f) := by
  change (s.users.map (User.redigest f) (User.key_redigest f)).find? id = _
  rw [Table.find?_map]

theorem findUserByEmail_redigest (email : String) :
    (s.redigest f).findUserByEmail email = (s.findUserByEmail email).map (User.redigest f) := by
  rw [findUserByEmail, rows_redigest, List.find?_map]
  rfl

/-- A rule that tells digests apart keeps their comparison. -/
theorem findUserByCredentials_redigest (hf : Function.Injective f)
    (email passwordDigest : String) :
    (s.redigest f).findUserByCredentials email (f passwordDigest) =
      (s.findUserByCredentials email passwordDigest).map (User.redigest f) := by
  rw [findUserByCredentials, rows_redigest, List.find?_map, findUserByCredentials]
  congr 2
  funext u
  have hdigest : (f u.passwordDigest == f passwordDigest) =
      (u.passwordDigest == passwordDigest) := by
    rw [Bool.eq_iff_iff, beq_iff_eq, beq_iff_eq, hf.eq_iff]
  simp only [Function.comp, User.redigest, hdigest]

/-- Putting a user in place and changing the digests may be done in either order. -/
theorem putUser_redigest (u : User) :
    (s.redigest f).users.put (u.redigest f) =
      (s.users.put u).map (User.redigest f) (User.key_redigest f) := by
  change (s.users.map (User.redigest f) (User.key_redigest f)).put (u.redigest f) = _
  rw [Table.put_map]

theorem setAccountType_redigest (id : UserId) (accountType : AccountType) :
    (s.redigest f).setAccountType id accountType =
      ((s.setAccountType id accountType).1, (s.setAccountType id accountType).2.redigest f) := by
  rw [setAccountType, findUser_redigest, setAccountType]
  cases s.users.find? id with
  | none => rfl
  | some u =>
    have hput := putUser_redigest f s { u with accountType := accountType }
    exact congrArg (fun users => (true, s.withUsers users)) hput

theorem any_email_redigest (email : String) :
    ((s.redigest f).users.rows.any fun u => u.email == email) =
      s.users.rows.any fun u => u.email == email := by
  rw [rows_redigest, List.any_map]
  rfl

theorem createUser_redigest (input : NewUser) :
    (s.redigest f).createUser (input.redigest f) =
      ((s.createUser input).1.map (User.redigest f), (s.createUser input).2.redigest f) := by
  have htaken := any_email_redigest f s input.email
  cases hany : s.users.rows.any fun u => u.email == input.email with
  | true =>
    have hleft : (s.redigest f).createUser (input.redigest f) =
        (.error (.emailTaken input.email), s.redigest f) := if_pos (htaken.trans hany)
    have hright : s.createUser input = (.error (.emailTaken input.email), s) := if_pos hany
    rw [hleft, hright]
    rfl
  | false =>
    let new : User :=
      ⟨⟨s.nextId⟩, input.name, input.email, input.passwordDigest, input.accountType⟩
    have hleft : (s.redigest f).createUser (input.redigest f) = (.ok (new.redigest f),
        { s.redigest f with
          created := s.created + 1, users := (s.redigest f).users.put (new.redigest f) }) :=
      if_neg fun htrue => by cases (htaken.trans hany).symm.trans htrue
    have hright : s.createUser input =
        (.ok new, { s with created := s.created + 1, users := s.users.put new }) :=
      if_neg fun htrue => by cases hany.symm.trans htrue
    rw [hleft, hright, putUser_redigest]
    rfl

end Users

namespace Accounts

variable {f : String → String}

/-- The checks compare digests with each other and with the empty one. -/
theorem report_redigest (hf : Function.Injective f) (hempty : f "" = "") (input : Registration)
    (taken : Bool) : (input.redigest f).report taken = input.report taken := by
  have hsame : (f input.digest != f input.repeatedDigest) =
      (input.digest != input.repeatedDigest) := by
    rw [Bool.eq_iff_iff, bne_iff_ne, bne_iff_ne, hf.ne_iff]
  have hmissing : (f input.digest == "") = (input.digest == "") := by
    rw [Bool.eq_iff_iff, beq_iff_eq, beq_iff_eq]
    constructor
    · intro h
      exact hf (h.trans hempty.symm)
    · intro h
      rw [h, hempty]
  simp only [Registration.report, Registration.redigest, hsame, hmissing]

theorem veils_create (input : Registration) :
    Veils f (Redigested f) (create input) (create (input.redigest f)) := by
  have hcreate : ∀ s : Memory, handle (.createUser (input.redigest f).account) (s.redigest f) =
      ((handle (.createUser input.account) s).1.map (User.redigest f),
        (handle (.createUser input.account) s).2.redigest f) := fun s =>
    createUser_redigest f s input.account
  apply Veils.call (.createUser input.account) (.createUser (input.redigest f).account)
    (Redigested f)
  · intro s
    rw [hcreate]
    cases (handle (.createUser input.account) s).1 with
    | ok u => exact .ok rfl
    | error e => exact .error e
  · intro s
    rw [hcreate]
  · intro x y hxy
    cases hxy with
    | ok h => exact .done h
    | error e => exact .fail _

theorem veils_register (hf : Function.Injective f) (hempty : f "" = "") (input : Registration) :
    Veils f (Redigested f) (register input) (register (input.redigest f)) := by
  have hfind : Veils f (fun x y => y = Option.map (User.redigest f) x)
      (Script.ask AccountError.store (.findUserByEmail input.email))
      (Script.ask AccountError.store (.findUserByEmail input.email)) :=
    Veils.ask (.findUserByEmail input.email) (.findUserByEmail input.email) _ _
      (fun s => .ok (findUserByEmail_redigest f s input.email)) fun _ => rfl
  apply hfind.bind
  rintro holder _ rfl
  rw [Option.isSome_map, report_redigest hf hempty]
  split
  · exact .fail _
  · exact veils_create input

theorem veils_authenticate (hf : Function.Injective f) (email passwordDigest : String) :
    Veils f (fun x y => y = Option.map (User.redigest f) x) (authenticate email passwordDigest)
      (authenticate email (f passwordDigest)) :=
  Veils.ask (.findUserByCredentials email passwordDigest)
    (.findUserByCredentials email (f passwordDigest)) _ _
    (fun s => .ok (findUserByCredentials_redigest f s hf email passwordDigest)) fun _ => rfl

theorem veils_setAccountType (id : UserId) (accountType : AccountType) :
    Veils f Eq (setAccountType id accountType) (setAccountType id accountType) := by
  have hset : Veils f Eq (Script.ask AccountError.store (.setAccountType id accountType))
      (Script.ask AccountError.store (.setAccountType id accountType)) := by
    apply Veils.ask (.setAccountType id accountType) (.setAccountType id accountType)
    · intro s
      rw [handle, handle, setAccountType_redigest]
      exact .ok rfl
    · intro s
      rw [handle, handle, setAccountType_redigest]
      rfl
  apply hset.bind
  rintro found _ rfl
  exact .of_unaware (Script.onlyAsks_require _ _)

theorem veils_get (id : UserId) : Veils f (Redigested f) (get id) (get id) := by
  have hfind : Veils f (fun x y => y = Option.map (User.redigest f) x)
      (Script.ask AccountError.store (.findUser id))
      (Script.ask AccountError.store (.findUser id)) :=
    Veils.ask (.findUser id) (.findUser id) _ _
      (fun s => .ok (findUser_redigest f s id)) fun _ => rfl
  apply hfind.bind
  rintro (_ | u) _ rfl
  · exact .fail _
  · exact .done rfl

end Accounts

/-- No reply is written with a digest. -/
def SameText (a b : Reply) : Prop := b.toJson = a.toJson

namespace Operation

variable {f : String → String}

/-- The operation with other digests does to the store with other digests what the operation does to
the store, and tells the same. -/
theorem veils_script (hf : Function.Injective f) (hempty : f "" = "") (op : Operation) :
    Veils f SameText op.script (op.redigest f).script := by
  have hunaware : op.onAccounts = false → Veils f SameText op.script op.script := by
    intro hop
    apply (Veils.of_unaware (unaware_script hop)).mono
    rintro a _ rfl
    rfl
  cases op with
  | register input =>
    apply (Accounts.veils_register hf hempty input).relabel
    rintro u _ rfl
    rfl
  | authenticate email passwordDigest =>
    apply (Accounts.veils_authenticate hf email passwordDigest).relabel
    rintro (_ | u) _ rfl <;> rfl
  | setAccountType id accountType =>
    apply (Accounts.veils_setAccountType id accountType).relabel
    exact fun _ _ _ => rfl
  | getUser id =>
    apply (Accounts.veils_get id).relabel
    rintro u _ rfl
    rfl
  | getProfile id =>
    have hprofile : Veils f Eq (Accounts.profile id) (Accounts.profile id) := by
      apply (Accounts.veils_get id).bind
      rintro u _ rfl
      exact .done rfl
    apply hprofile.relabel
    rintro p _ rfl
    rfl
  | getDisplayName id =>
    have hname : Veils f Eq (Accounts.displayName id) (Accounts.displayName id) := by
      apply (Accounts.veils_get id).bind
      rintro u _ rfl
      exact .done rfl
    apply hname.relabel
    rintro text _ rfl
    rfl
  | _ => exact hunaware rfl

end Operation

namespace Memory

variable {f : String → String}

@[simp] theorem redigest_empty (f : String → String) : (empty : Memory).redigest f = empty := rfl

/-- What one call keeps: the stores differ in their digests, and the same is told. -/
theorem call_redigest (hf : Function.Injective f) (hempty : f "" = "") (op : Operation)
    (s : Memory) :
    ((op.redigest f).call (s.redigest f)).told = (op.call s).told ∧
      ((op.redigest f).call (s.redigest f)).after = (op.call s).after.redigest f := by
  obtain ⟨hresult, hafter⟩ := op.veils_script hf hempty s
  refine ⟨?_, hafter⟩
  rw [Call.told, Call.told, Operation.call, Operation.call]
  generalize (op.script.run handle s).1 = x at hresult
  generalize ((op.redigest f).script.run handle (s.redigest f)).1 = y at hresult
  cases hresult with
  | ok h => exact congrArg Except.ok h
  | error e => rfl

theorem calls_redigest (hf : Function.Injective f) (hempty : f "" = "") (ops : List Operation)
    (s : Memory) :
    (calls (ops.map (Operation.redigest f)) (s.redigest f)).map Call.told =
        (calls ops s).map Call.told ∧
      serve (ops.map (Operation.redigest f)) (s.redigest f) = (serve ops s).redigest f := by
  induction ops generalizing s with
  | nil => exact ⟨rfl, rfl⟩
  | cons op ops ih =>
    obtain ⟨htold, hafter⟩ := call_redigest hf hempty op s
    rw [List.map_cons, calls, calls, serve, serve, hafter, List.map_cons, List.map_cons, htold]
    exact ⟨congrArg (List.cons (op.call s).told) (ih (op.call s).after).1, (ih (op.call s).after).2⟩

/-- Other digests in the arguments of a run, by a rule that tells digests apart and keeps the empty
one: every call is told the same, replies as they are written and refusals with all that they say,
and the users that are left differ in their digests only. -/
theorem digests_only_compared (f : String → String) (hf : Function.Injective f)
    (hempty : f "" = "") (ops : List Operation) :
    (calls (ops.map (Operation.redigest f)) empty).map Call.told =
        (calls ops empty).map Call.told ∧
      serve (ops.map (Operation.redigest f)) empty = (serve ops empty).redigest f := by
  have hrun := calls_redigest hf hempty ops empty
  rwa [redigest_empty] at hrun

def backwards (text : String) : String := String.ofList text.toList.reverse

theorem backwards_injective : Function.Injective backwards := by
  intro a b h
  have hlists := congrArg String.toList h
  rw [backwards, backwards, String.toList_ofList, String.toList_ofList,
    List.reverse_inj] at hlists
  exact String.toList_inj.1 hlists

/-- Registrations with equal, with different and without digests, and logins with the right and with
a wrong one. -/
def logins : List Operation :=
  [.register ⟨"Ada", "ada@home", "d1g3st", "d1g3st", .customer⟩,
    .register ⟨"Bob", "bob@home", "one", "two", .customer⟩,
    .register ⟨"Eve", "eve@home", "", "", .customer⟩, .authenticate "ada@home" "d1g3st",
    .authenticate "ada@home" "d1gest", .getUser ⟨1⟩, .getProfile ⟨1⟩]

theorem logins_veiled :
    (calls (logins.map (Operation.redigest backwards)) empty).map Call.told =
        (calls logins empty).map Call.told ∧
      (calls logins empty).map (fun c => c.answer.isOk) =
        [true, false, false, true, true, true, true] ∧
      (serve (logins.map (Operation.redigest backwards)) empty).users.rows.map
        User.passwordDigest = ["ts3g1d"] := by
  refine ⟨?_, by decide, by decide⟩
  exact (digests_only_compared backwards backwards_injective (by decide) logins).1

end Memory

end Loyalty
