import Loyalty.Proofs.Enrolment
import Mathlib.Data.List.Induction

/-!
# Registering at once

Any number of callers register one email, each in its own steps, while other calls go on. A caller
asks whether the email is free before it enters its account, and somebody else may enter one in
between. The loser of the race is told the same whether it finds the email taken or is refused by
the store: so while the email is free nobody has been refused, and once it is taken one caller holds
it and all that come later are told so.
-/

namespace Loyalty

open Memory

/-- A registration that can be refused for its email only. -/
structure Registration.InOrder (input : Registration) : Prop where
  named : input.email ≠ ""
  confirmed : input.digest = input.repeatedDigest
  secret : input.digest ≠ ""

theorem Registration.report_of_inOrder {input : Registration} (h : input.InOrder) (taken : Bool) :
    input.report taken = if taken then Report.empty.push .emailTaken else Report.empty := by
  have hconfirmed : (input.digest != input.repeatedDigest) = false := by simp [h.confirmed]
  have hnamed : (input.email == "") = false := by simp [h.named]
  have hsecret : (input.digest == "") = false := by simp [h.secret]
  rw [report, hconfirmed, hnamed, hsecret]
  rfl

namespace Accounts

def proceed (input : Registration) (taken : Bool) : Script AccountError User :=
  match (input.report taken).verdict with
  | .error report => .fail (.invalid report)
  | .ok () => create input

theorem proceed_of_inOrder {input : Registration} (h : input.InOrder) (taken : Bool) :
    proceed input taken =
      if taken then .fail (.invalid (Report.empty.push .emailTaken)) else create input := by
  rw [proceed, Registration.report_of_inOrder h]
  cases taken <;> rfl

end Accounts

def Refusal.emailTaken : Refusal := .account (.invalid (Report.empty.push .emailTaken))

def Operation.claims (email : String) : Operation → Bool
  | .register input => input.email = email
  | _ => false

theorem Operation.EnrolsOwn.email_ne {op : Operation} {past : List Exchange} {r : Request}
    (h : op.EnrolsOwn past r) {email : String} (hother : op.claims email = false) {s s' : Memory}
    {a : Except StoreError r.Answer} (hchange : s.Change ⟨r, a⟩ s') {user : User}
    (hnew : Exchange.enrolled? ⟨r, a⟩ = some user) : user.email ≠ email := by
  obtain ⟨input, hx⟩ := Exchange.enrolled?_eq_some_iff.1 hnew
  cases hx
  obtain ⟨registration, rfl, rfl⟩ := h.own input rfl
  cases hchange with
  | nothing h => cases h
  | createUser _ huser =>
    subst huser
    exact of_decide_eq_false hother

inductive Caller.Entering : Caller → Prop
  | fresh {input : Registration} (h : input.InOrder) :
      Entering ⟨.register input, (Accounts.register input).relabel .account .user⟩
  | ready {input : Registration} (h : input.InOrder) :
      Entering ⟨.register input, (Accounts.create input).relabel .account .user⟩

namespace Caller.Entering

variable {c : Caller} {email : String} {s : Memory}

/-- While an email is free, a caller that registers it goes on, or enters its account and is
told. -/
theorem serve_free (h : c.Entering) (hclaims : c.op.claims email = true)
    (hfree : ∀ u ∈ s.users.rows, u.email ≠ email) :
    ∃ r next, c.rest = .call r next ∧
      ((handle r s).2 = s ∧ Entering ⟨c.op, next (handle r s).1⟩ ∨
        ∃ user ∈ (handle r s).2.users.rows, user.email = email ∧
          next (handle r s).1 = .done (.user user)) := by
  cases h with
  | @fresh input h =>
    have hemail : input.email = email := of_decide_eq_true hclaims
    refine ⟨.findUserByEmail input.email, _, rfl, Or.inl ⟨rfl, ?_⟩⟩
    have hnone : s.findUserByEmail input.email = none := by
      rw [findUserByEmail, List.find?_eq_none]
      intro u hu
      rw [hemail, beq_iff_eq]
      exact hfree u hu
    change Entering ⟨_, (Accounts.proceed input (s.findUserByEmail input.email).isSome).relabel _ _⟩
    rw [hnone, Accounts.proceed_of_inOrder h]
    exact .ready h
  | @ready input h =>
    have hemail : input.email = email := of_decide_eq_true hclaims
    have hnone : (s.users.rows.any fun u => u.email == input.email) = false := by
      rw [List.any_eq_false]
      intro u hu
      rw [hemail, beq_iff_eq]
      exact hfree u hu
    refine ⟨.createUser input.account, _, rfl, Or.inr ?_⟩
    have hanswer : handle (.createUser input.account) s =
        (.ok ⟨⟨s.nextId⟩, input.name, input.email, input.digest, input.accountType⟩,
          { s with
            created := s.created + 1,
            users := s.users.put
              ⟨⟨s.nextId⟩, input.name, input.email, input.digest, input.accountType⟩ }) := by
      simp only [handle, createUser, Registration.account, hnone]
      rfl
    rw [hanswer]
    exact ⟨_, Table.mem_put.2 (Or.inl rfl), hemail, rfl⟩

/-- Once an email is taken, a caller that registers it is told so. -/
theorem serve_taken (h : c.Entering) (hclaims : c.op.claims email = true)
    (htaken : ∃ u ∈ s.users.rows, u.email = email) :
    ∃ r next, c.rest = .call r next ∧ (handle r s).2 = s ∧
      next (handle r s).1 = .fail .emailTaken := by
  obtain ⟨u, hu, hu'⟩ := htaken
  cases h with
  | @fresh input h =>
    obtain rfl : input.email = email := of_decide_eq_true hclaims
    refine ⟨.findUserByEmail input.email, _, rfl, rfl, ?_⟩
    have hsome : (s.findUserByEmail input.email).isSome = true := by
      rw [findUserByEmail, List.find?_isSome]
      exact ⟨u, hu, by simp [hu']⟩
    change (Accounts.proceed input (s.findUserByEmail input.email).isSome).relabel _ _ = _
    rw [hsome, Accounts.proceed_of_inOrder h]
    rfl
  | @ready input h =>
    obtain rfl : input.email = email := of_decide_eq_true hclaims
    refine ⟨.createUser input.account, _, rfl, ?_⟩
    have hany : (s.users.rows.any fun u => u.email == input.email) = true :=
      List.any_eq_true.2 ⟨u, hu, by simp [hu']⟩
    have hanswer : handle (.createUser input.account) s =
        (.error (.emailTaken input.email), s) := by
      simp only [handle, createUser, Registration.account, hany]
      rfl
    rw [hanswer]
    exact ⟨rfl, rfl⟩

end Caller.Entering

namespace World

/-- Of the callers from `first` on, those that register an email. -/
def Contenders (first : Nat) (email : String) (P : Nat → Caller → Prop) (w : World) : Prop :=
  ∀ i c, first ≤ i → w.callers[i]? = some c → c.op.claims email = true → P i c

/-- A race for an email. While it is free, nobody has ended. Once it is taken, one caller was told
of its account, and whoever else has ended was told that it came too late. -/
inductive Contested (first : Nat) (email : String) (w : World) : Prop
  | free (hfree : ∀ u ∈ w.store.users.rows, u.email ≠ email)
      (hentering : w.Contenders first email fun _ c => c.Entering)
  | taken {winner : Nat} {c : Caller} {user : User}
      (hstored : ∃ u ∈ w.store.users.rows, u.email = email) (hfirst : first ≤ winner)
      (hwinner : w.callers[winner]? = some c) (hclaims : c.op.claims email = true)
      (hresult : c.rest = .done (.user user)) (hemail : user.email = email)
      (hothers : w.Contenders first email fun i d =>
        i = winner ∨ d.Entering ∨ d.rest = .fail .emailTaken)

variable {w : World} {first i : Nat} {email : String} {P : Nat → Caller → Prop}

theorem Contenders.mono {Q : Nat → Caller → Prop} (h : w.Contenders first email P)
    (himp : ∀ i c, P i c → Q i c) : w.Contenders first email Q :=
  fun i c hi hc hclaims => himp i c (h i c hi hc hclaims)

theorem Contenders.start (h : w.Contenders first email P) {op : Operation}
    (hop : op.claims email = true → ∀ i, P i op.begin) :
    Contenders first email P { w with callers := w.callers ++ [op.begin] } := by
  intro i c hi hc hclaims
  rcases getElem?_append_one hc with hc | ⟨-, rfl⟩
  · exact h i c hi hc hclaims
  · exact hop hclaims i

theorem Contenders.exchange (h : w.Contenders first email P) {d : Caller} {s : Memory}
    {history : List Event} (hd : first ≤ i → d.op.claims email = true → P i d) :
    Contenders first email P ⟨s, w.callers.set i d, history⟩ := by
  intro j c hj hc hclaims
  rw [List.getElem?_set] at hc
  split at hc
  · rename_i hij
    subst hij
    split at hc
    · cases hc
      exact hd hj hclaims
    · cases hc
  · exact h j c hj hc hclaims

theorem Contested.start (h : w.Contested first email) {op : Operation}
    (hop : op.claims email = true → op.begin.Entering) :
    Contested first email { w with callers := w.callers ++ [op.begin] } := by
  cases h with
  | free hfree hentering => exact .free hfree (hentering.start fun hclaims _ => hop hclaims)
  | @taken winner c user hstored hfirst hwinner hclaims hresult hemail hothers =>
    refine .taken hstored hfirst ?_ hclaims hresult hemail
      (hothers.start fun hclaims _ => Or.inr (Or.inl (hop hclaims)))
    have hlt : winner < w.callers.length := (List.getElem?_eq_some_iff.1 hwinner).1
    rw [List.getElem?_append_left hlt]
    exact hwinner

theorem ne_of_done {j : Nat} {op : Operation} {r : Request}
    {next : Except StoreError r.Answer → Script Refusal Reply} {c : Caller} {reply : Reply}
    (hcaller : w.callers[i]? = some ⟨op, .call r next⟩) (hended : w.callers[j]? = some c)
    (hresult : c.rest = .done reply) : i ≠ j := by
  rintro rfl
  rw [hcaller] at hended
  cases hended
  cases hresult

/-- A contender that is served is told of its account where the email was free, and else that it
came too late. -/
theorem Contested.serve (h : w.Contested first email) {op : Operation} {r : Request}
    {next : Except StoreError r.Answer → Script Refusal Reply} (hi : first ≤ i)
    (hcaller : w.callers[i]? = some ⟨op, .call r next⟩) (hclaims : op.claims email = true)
    (history : List Event) :
    Contested first email
      ⟨(handle r w.store).2, w.callers.set i ⟨op, next (handle r w.store).1⟩, history⟩ := by
  have hlt : i < w.callers.length := (List.getElem?_eq_some_iff.1 hcaller).1
  cases h with
  | free hfree hentering =>
    obtain ⟨r', next', hcall, hserved⟩ :=
      (hentering i _ hi hcaller hclaims).serve_free hclaims hfree
    cases hcall
    rcases hserved with ⟨hsame, hgoes⟩ | ⟨user, hstored, hemail, hdone⟩
    · rw [hsame]
      exact .free hfree (hentering.exchange fun _ _ => hgoes)
    · refine .taken ⟨user, hstored, hemail⟩ hi (List.getElem?_set_self hlt) hclaims hdone hemail ?_
      apply Contenders.exchange (hentering.mono fun _ _ hd => Or.inr (Or.inl hd))
      exact fun _ _ => Or.inl rfl
  | @taken winner c user hstored hfirst hwinner hclaims' hresult hemail hothers =>
    have hother : i ≠ winner := ne_of_done hcaller hwinner hresult
    have hentering : Caller.Entering ⟨op, .call r next⟩ := by
      rcases hothers i _ hi hcaller hclaims with heq | hentering | hlate
      · exact absurd heq hother
      · exact hentering
      · cases hlate
    obtain ⟨r', next', hcall, hsame, hlate⟩ := hentering.serve_taken hclaims hstored
    cases hcall
    rw [hsame, hlate]
    refine .taken hstored hfirst ?_ hclaims' hresult hemail
      (hothers.exchange fun _ _ => Or.inr (Or.inr rfl))
    rwa [List.getElem?_set_ne hother]

/-- What others do leaves a race for an email as it stands, as long as no number is given out
again. -/
theorem Contested.pass (h : w.Contested first email) {op : Operation} {r : Request}
    {next : Except StoreError r.Answer → Script Refusal Reply} {a : Except StoreError r.Answer}
    {s : Memory} {past : List Exchange} (hcaller : w.callers[i]? = some ⟨op, .call r next⟩)
    (hother : op.claims email = false) (hown : op.EnrolsOwn past r)
    (hchange : w.store.Change ⟨r, a⟩ s) (hpeopled : w.store.Peopled)
    (hroom : s.created ≤ 4294967296) (history : List Event) :
    Contested first email ⟨s, w.callers.set i ⟨op, next a⟩, history⟩ := by
  have hno : op.claims email = true → False := by
    intro hclaims
    rw [hother] at hclaims
    cases hclaims
  cases h with
  | free hfree hentering =>
    refine .free ?_ (hentering.exchange fun _ hclaims => (hno hclaims).elim)
    intro u hu
    rcases hchange.mem_users hu with hnew | ⟨earlier, hearlier, t, rfl⟩
    · exact hown.email_ne hother hchange hnew
    · exact hfree earlier hearlier
  | @taken winner c user hstored hfirst hwinner hclaims hresult hemail hothers =>
    have hne : i ≠ winner := ne_of_done hcaller hwinner hresult
    refine .taken ?_ hfirst ?_ hclaims hresult hemail
      (hothers.exchange fun _ hclaims => (hno hclaims).elim)
    · obtain ⟨u, hu, rfl⟩ := hstored
      apply hchange.user_stays hu
      intro hgrown
      have hgrows := hchange.created_le
      exact hpeopled.ne_nextId (by omega) hu
    · rwa [List.getElem?_set_ne hne]

theorem step_turn (w : World) (t : Turn) : w.Step (fun _ => True) (w.take t) :=
  step_take t fun _ _ => trivial

theorem created_le_step {allowed : Operation → Prop} {w' : World} (hstep : w.Step allowed w') :
    w.store.created ≤ w'.store.created := by
  cases hstep with
  | idle => exact Nat.le_refl _
  | start => exact Nat.le_refl _
  | exchange _ hanswer => exact hanswer.change.created_le

/-- A race for an email among the callers from `first` on; those before have ended. -/
structure RacedFor (first : Nat) (email : String) (w : World) : Prop where
  started : first ≤ w.callers.length
  alone : ∀ i c, i < first → w.callers[i]? = some c → c.op.claims email = true → c.result?.isSome
  contested : w.Contested first email

namespace RacedFor

theorem le_of_call (h : w.RacedFor first email) {op : Operation} {r : Request}
    {next : Except StoreError r.Answer → Script Refusal Reply}
    (hcaller : w.callers[i]? = some ⟨op, .call r next⟩) (hclaims : op.claims email = true) :
    first ≤ i := by
  apply Nat.le_of_not_lt
  intro hlt
  cases h.alone i _ hlt hcaller hclaims

theorem contested_take (h : w.RacedFor first email) (hpeopled : w.store.Peopled)
    (habides : w.Abides Operation.EnrolsOwn Operation.TellsEnrolments) (t : Turn)
    (hstart : ∀ op, t = .start op → op.claims email = true → op.begin.Entering)
    (hfault : ∀ i fault c, t = .disturb i fault → first ≤ i → w.callers[i]? = some c →
      c.op.claims email = false)
    (hroom : (w.take t).store.created ≤ 4294967296) : (w.take t).Contested first email := by
  cases t with
  | start op => exact h.contested.start (hstart op rfl)
  | serve i =>
    rw [take] at hroom ⊢
    rcases w.exchange_cases i _ with hsame | ⟨op, r, next, a, s, hcaller, ha, heq⟩
    · rw [hsame]
      exact h.contested
    · obtain ⟨rfl, rfl⟩ : a = (handle r w.store).1 ∧ s = (handle r w.store).2 := by
        rw [Option.some.inj ha]
        exact ⟨rfl, rfl⟩
      rw [heq] at hroom ⊢
      cases hclaims : op.claims email with
      | true => exact h.contested.serve (h.le_of_call hcaller hclaims) hcaller hclaims _
      | false =>
        exact h.contested.pass hcaller hclaims (habides.keeps i _ hcaller).1
          (change_handle w.store r) hpeopled hroom _
  | disturb i fault =>
    rw [take] at hroom ⊢
    rcases w.exchange_cases i _ with hsame | ⟨op, r, next, a, s, hcaller, ha, heq⟩
    · rw [hsame]
      exact h.contested
    · rw [heq] at hroom ⊢
      obtain ⟨b, hb, hab⟩ := Option.map_eq_some_iff.1 ha
      cases hab
      have hclaims : op.claims email = false := by
        rw [← Bool.not_eq_true]
        intro hclaims
        have hother := hfault i fault _ rfl (h.le_of_call hcaller hclaims) hcaller
        rw [hclaims] at hother
        cases hother
      exact h.contested.pass hcaller hclaims (habides.keeps i _ hcaller).1
        (.nothing (Fault.isEffective_answer hb)) hpeopled hroom _

theorem alone_take (h : w.RacedFor first email) (t : Turn) {c : Caller} (hi : i < first)
    (hc : (w.take t).callers[i]? = some c) (hclaims : c.op.claims email = true) :
    c.result?.isSome := by
  have hlt := Nat.lt_of_lt_of_le hi h.started
  obtain ⟨d, hd, hop, hsame⟩ := caller_step (step_turn w t) (List.getElem?_eq_getElem hlt)
  rw [hc] at hd
  cases hd
  rw [hop] at hclaims
  have hended := h.alone i _ hi (List.getElem?_eq_getElem hlt) hclaims
  rw [hsame hended]
  exact hended

end RacedFor

/-- A later part of a run in which an email is registered that was free. Whoever registered it
before has ended. Whoever does so now gives digests that match and are not empty, and meets no
fault, and the store does not run out of numbers for what is created. -/
structure Race (before later : List Turn) (email : String) : Prop where
  named : email ≠ ""
  free : ∀ u ∈ (run before).store.users.rows, u.email ≠ email
  alone : ∀ c ∈ (run before).callers, c.op.claims email = true → c.result?.isSome
  matching : ∀ input, Turn.start (.register input) ∈ later → input.email = email →
    input.digest = input.repeatedDigest ∧ input.digest ≠ ""
  faultless : ∀ i fault c, Turn.disturb i fault ∈ later → (run before).callers.length ≤ i →
    (run (before ++ later)).callers[i]? = some c → c.op.claims email = false
  numbered : (run (before ++ later)).store.created ≤ 4294967296

namespace Race

variable {before later : List Turn}

theorem entering (h : Race before later email) {op : Operation} (hop : Turn.start op ∈ later)
    (hclaims : op.claims email = true) : op.begin.Entering := by
  cases op with
  | register input =>
    have hemail : input.email = email := of_decide_eq_true hclaims
    obtain ⟨hconfirmed, hsecret⟩ := h.matching input hop hemail
    exact .fresh ⟨hemail ▸ h.named, hconfirmed, hsecret⟩
  | _ => cases hclaims

/-- A caller that meets a fault registers another email, which is seen before the last turn too. -/
theorem faultless_init {t : Turn} (h : Race before (later ++ [t]) email) {i : Nat} {fault : Fault}
    {c : Caller} (hfault : Turn.disturb i fault ∈ later ++ [t])
    (hi : (run before).callers.length ≤ i) (hc : (run (before ++ later)).callers[i]? = some c) :
    c.op.claims email = false := by
  obtain ⟨d, hd, hop, -⟩ := caller_step (step_turn _ t) hc
  rw [← run_append, List.append_assoc] at hd
  rw [← hop]
  exact h.faultless i fault d hfault hi hd

/-- A race is one up to its last turn. -/
theorem init {t : Turn} (h : Race before (later ++ [t]) email) : Race before later email where
  named := h.named
  free := h.free
  alone := h.alone
  matching input hstart := h.matching input (List.mem_append_left _ hstart)
  faultless i fault c hfault hi hc := h.faultless_init (List.mem_append_left _ hfault) hi hc
  numbered := by
    have hgrows := created_le_step (step_turn (run (before ++ later)) t)
    rw [← run_append, List.append_assoc] at hgrows
    exact Nat.le_trans hgrows h.numbered

theorem racedFor (h : Race before later email) :
    (run (before ++ later)).RacedFor (run before).callers.length email := by
  induction later using List.reverseRecOn with
  | nil =>
    rw [List.append_nil]
    refine ⟨Nat.le_refl _, ?_, .free h.free ?_⟩
    · exact fun i c _ hc hclaims => h.alone c (List.mem_of_getElem? hc) hclaims
    · intro i c hi hc
      have hlt := (List.getElem?_eq_some_iff.1 hc).1
      omega
  | append_singleton later t ih =>
    rw [← List.append_assoc, run_append]
    have hroom := h.numbered
    rw [← List.append_assoc, run_append] at hroom
    have hraced := ih h.init
    refine ⟨Nat.le_trans hraced.started (length_callers_le_step (step_turn _ t)), ?_, ?_⟩
    · exact fun i c hi hc hclaims => hraced.alone_take t hi hc hclaims
    · apply hraced.contested_take (peopled_run _) (Abides.run Operation.keeps_enrolments _) t _ _
        hroom
      · rintro op rfl hclaims
        exact h.entering (List.mem_append_right _ List.mem_cons_self) hclaims
      · rintro i fault c rfl hi hc
        exact h.faultless_init (List.mem_append_right _ List.mem_cons_self) hi hc

end Race

/-- The caller wins a race: it is told of an account with the email, and every other caller that
registers the email is told that it has been used, and nothing else. -/
structure Wins (w : World) (first : Nat) (email : String) (winner : Nat) : Prop where
  told : ∃ c user, first ≤ winner ∧ w.callers[winner]? = some c ∧ c.op.claims email = true ∧
    c.result? = some (.ok (.user user)) ∧ user.email = email
  others : ∀ i c, first ≤ i → i ≠ winner → w.callers[i]? = some c → c.op.claims email = true →
    ∃ report, c.result? = some (.error (.account (.invalid report))) ∧
      (report.map RegistrationComplaint.message).entries = ["Email has already been used."]

/-- A race that somebody runs, and that all run to their end, has a winner. -/
theorem Contested.exists_winner (h : w.Contested first email)
    (hended : w.Contenders first email fun _ c => c.result?.isSome)
    (hruns : ∃ i c, first ≤ i ∧ w.callers[i]? = some c ∧ c.op.claims email = true) :
    ∃ winner, w.Wins first email winner := by
  have hrunning : ∀ c : Caller, c.Entering → c.result?.isSome = false := by
    rintro c (_ | _) <;> rfl
  cases h with
  | free hfree hentering =>
    obtain ⟨i, c, hi, hc, hclaims⟩ := hruns
    have hsome : c.result?.isSome = true := hended i c hi hc hclaims
    rw [hrunning c (hentering i c hi hc hclaims)] at hsome
    cases hsome
  | @taken winner c user hstored hfirst hwinner hclaims hresult hemail hothers =>
    refine ⟨winner, ⟨c, user, hfirst, hwinner, hclaims, ?_, hemail⟩, ?_⟩
    · rw [Caller.result?, hresult]
      rfl
    · intro i d hi hne hd hclaims'
      rcases hothers i d hi hd hclaims' with heq | hentering | hlate
      · exact absurd heq hne
      · have hsome : d.result?.isSome = true := hended i d hi hd hclaims'
        rw [hrunning d hentering] at hsome
        cases hsome
      · rw [Caller.result?, hlate]
        exact ⟨_, rfl, rfl⟩

/-- Whatever turns are taken: no two stored accounts share an email; each was told of by a
registration that succeeded, and whoever was refused has entered none; and a race for an email that
all run to their end has one winner. -/
theorem registrations_settle (turns : List Turn) :
    ((run turns).store.users.rows.map User.email).Nodup ∧
    (∀ u ∈ (run turns).store.users.rows, ∃ c ∈ (run turns).callers, ∃ registration user,
      c.op = .register registration ∧ c.result? = some (.ok (.user user)) ∧
        ∃ accountType, u = { user with accountType := accountType }) ∧
    (∀ i c e, (run turns).callers[i]? = some c → c.result? = some (.error e) →
      enrolmentsIn ((run turns).past i) = []) ∧
    ∀ before later email, turns = before ++ later → Race before later email →
      (run turns).Contenders (run before).callers.length email (fun _ c => c.result?.isSome) →
      (∃ i c, (run before).callers.length ≤ i ∧ (run turns).callers[i]? = some c ∧
        c.op.claims email = true) →
      ∃ winner, (run turns).Wins (run before).callers.length email winner := by
  refine ⟨(peopled_run turns).nodup_emails, fun u hu => exists_registration turns hu,
    fun i c e hc hresult => enrolmentsIn_of_refused turns hc hresult, ?_⟩
  rintro before later email rfl hrace hended hruns
  exact hrace.racedFor.contested.exists_winner hended hruns

def ann (name : String) : Operation := .register ⟨name, "ann@example.com", "d1", "d1", .customer⟩

/-- Three callers register one email. The second is first to enter its account, the first is refused
by the store, and the third finds the email taken. -/
def threeRegistrations : List Turn :=
  [.start (ann "Ann"), .start (ann "Anna"), .serve 0,
    .start (.createRestaurant ⟨"Cafe", "1 Main St"⟩), .serve 1, .serve 1, .serve 2, .serve 0,
    .start (ann "Anne"), .serve 3]

theorem threeRegistrations_one_wins :
    ∃ winner, (run threeRegistrations).Wins 0 "ann@example.com" winner := by
  have hrace : Race [] threeRegistrations "ann@example.com" := by
    refine ⟨by decide, fun _ hu => absurd hu List.not_mem_nil,
      fun _ hc => absurd hc List.not_mem_nil, ?_, ?_, by decide⟩
    · intro input hinput _
      simp only [threeRegistrations, ann, List.mem_cons, List.not_mem_nil, Turn.start.injEq,
        Operation.register.injEq, reduceCtorEq, or_false, false_or] at hinput
      rcases hinput with rfl | rfl | rfl <;> exact ⟨rfl, by decide⟩
    · intro i fault c hfault
      simp [threeRegistrations] at hfault
  have hended : (run threeRegistrations).Contenders 0 "ann@example.com"
      fun _ c => c.result?.isSome := by
    intro i c _ hc _
    have hall : ∀ d ∈ (run threeRegistrations).callers, d.result?.isSome := by decide
    exact hall c (List.mem_of_getElem? hc)
  obtain ⟨-, -, -, hwinner⟩ := registrations_settle threeRegistrations
  exact hwinner [] threeRegistrations _ rfl hrace hended ⟨0, _, Nat.zero_le _, rfl, rfl⟩

end World

end Loyalty
