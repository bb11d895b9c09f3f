import Loyalty.Proofs.Change
import Loyalty.Proofs.Contract

/-!
# Interleavings

Any number of callers share one store. Each caller has an operation and what is left of its script.
A turn starts a new operation, has the store answer the next request of a caller, or has a fault
answer it. A list of turns is a run, and all runs are all lists. The history of a run keeps every
exchange, the latest first.

Two invariants carry every statement on runs. Each caller keeps to its contract, from what it has
seen so far on (`Faithful`). And the exchanges of all callers together form a log in which every
request has its reason among the earlier exchanges (`Logged`).
-/

namespace Loyalty

structure Caller where
  op : Operation
  rest : Script Refusal Reply

def Script.result? {ε α : Type} : Script ε α → Option (Except ε α)
  | .done a => some (.ok a)
  | .fail e => some (.error e)
  | .call .. => none

namespace Caller

def result? (c : Caller) : Option (Except Refusal Reply) := c.rest.result?

def told? (c : Caller) : Option Payment := c.result?.bind c.op.payment?

end Caller

def Operation.begin (op : Operation) : Caller := ⟨op, op.script⟩

structure Event where
  caller : Nat
  exchange : Exchange

structure World where
  store : Memory
  callers : List Caller
  history : List Event

inductive Turn where
  | start (op : Operation)
  | serve (i : Nat)
  | disturb (i : Nat) (fault : Fault)

namespace World

def initial : World := ⟨.empty, [], []⟩

def gather (s : Memory) (ops : List Operation) : World := ⟨s, ops.map Operation.begin, []⟩

/-- Has the next request of a caller answered, if it has one and there is an answer. -/
def exchange (w : World) (i : Nat)
    (answer : (r : Request) → Memory → Option (Except StoreError r.Answer × Memory)) : World :=
  match w.callers[i]? with
  | some ⟨op, .call r next⟩ =>
    match answer r w.store with
    | some (a, s) => ⟨s, w.callers.set i ⟨op, next a⟩, ⟨i, ⟨r, a⟩⟩ :: w.history⟩
    | none => w
  | _ => w

def take (w : World) : Turn → World
  | .start op => { w with callers := w.callers ++ [op.begin] }
  | .serve i => w.exchange i fun r s => some (Memory.handle r s)
  | .disturb i fault => w.exchange i fun r s => (fault.answer? r).map fun a => (a, s)

def run (turns : List Turn) : World := turns.foldl take initial

def past (w : World) (i : Nat) : List Exchange :=
  (w.history.filter fun e => e.caller = i).map Event.exchange

/-- What a turn may do, where only some operations are started. -/
inductive Step (allowed : Operation → Prop) (w : World) : World → Prop
  | idle : Step allowed w w
  | start {op : Operation} (hop : allowed op) :
      Step allowed w { w with callers := w.callers ++ [op.begin] }
  | exchange {i : Nat} {op : Operation} {r : Request}
      {next : Except StoreError r.Answer → Script Refusal Reply}
      {a : Except StoreError r.Answer} {s : Memory}
      (hcaller : w.callers[i]? = some ⟨op, .call r next⟩) (hanswer : w.store.Answers r a s) :
      Step allowed w ⟨s, w.callers.set i ⟨op, next a⟩, ⟨i, ⟨r, a⟩⟩ :: w.history⟩

variable {allowed : Operation → Prop} {w w' : World}

/-- An exchange takes place where a caller has a request and there is an answer. -/
theorem exchange_cases (w : World) (i : Nat)
    (answer : (r : Request) → Memory → Option (Except StoreError r.Answer × Memory)) :
    w.exchange i answer = w ∨ ∃ op r next a s, w.callers[i]? = some ⟨op, .call r next⟩ ∧
      answer r w.store = some (a, s) ∧
      w.exchange i answer = ⟨s, w.callers.set i ⟨op, next a⟩, ⟨i, ⟨r, a⟩⟩ :: w.history⟩ := by
  unfold World.exchange
  split
  · rename_i op r next hcaller
    split
    · rename_i a s ha
      exact Or.inr ⟨op, r, next, a, s, hcaller, ha, rfl⟩
    · exact Or.inl rfl
  · exact Or.inl rfl

theorem step_exchange (i : Nat)
    {answer : (r : Request) → Memory → Option (Except StoreError r.Answer × Memory)}
    (h : ∀ r a s, answer r w.store = some (a, s) → w.store.Answers r a s) :
    w.Step allowed (w.exchange i answer) := by
  rcases w.exchange_cases i answer with hsame | ⟨op, r, next, a, s, hcaller, ha, heq⟩
  · rw [hsame]
    exact .idle
  · rw [heq]
    exact .exchange hcaller (h r a s ha)

theorem step_take (t : Turn) (hop : ∀ op, t = .start op → allowed op) :
    w.Step allowed (w.take t) := by
  cases t with
  | start op => exact .start (hop op rfl)
  | serve i =>
    rw [take]
    apply step_exchange
    intro r a s ha
    have hserved : w.store.Answers r (Memory.handle r w.store).1 (Memory.handle r w.store).2 :=
      .served
    have hpair := Option.some.inj ha
    rwa [hpair] at hserved
  | disturb i fault =>
    rw [take]
    apply step_exchange
    intro r a s ha
    obtain ⟨b, hb, hab⟩ := Option.map_eq_some_iff.1 ha
    cases hab
    exact .disturbed hb

/-- What holds at first and is kept by every step holds after every run. -/
theorem run_induction {P : World → Prop} (hinitial : P initial)
    (hstep : ∀ w w', P w → w.Step allowed w' → P w') (turns : List Turn)
    (hops : ∀ op, Turn.start op ∈ turns → allowed op) : P (run turns) := by
  have hfold : ∀ w, P w → P (turns.foldl take w) := by
    induction turns with
    | nil => exact fun w hw => hw
    | cons t turns ih =>
      intro w hw
      apply ih fun op hop => hops op (List.mem_cons_of_mem t hop)
      exact hstep w _ hw (step_take t fun op hop => hops op (hop ▸ List.mem_cons_self))
  exact hfold initial hinitial

/-- What every step keeps, whatever is started, holds after every run. -/
theorem run_invariant {P : World → Prop} (hinitial : P initial)
    (hstep : ∀ w w' : World, P w → w.Step (fun _ => True) w' → P w') (turns : List Turn) :
    P (run turns) :=
  run_induction hinitial hstep turns fun _ _ => trivial

theorem run_append (turns : List Turn) (t : Turn) : run (turns ++ [t]) = (run turns).take t := by
  rw [run, List.foldl_append]
  rfl

def exchanges (w : World) : List Exchange := w.history.map Event.exchange

theorem past_cons (s : Memory) (callers : List Caller) (history : List Event) (i j : Nat)
    (x : Exchange) :
    (World.mk s callers (⟨i, x⟩ :: history)).past j =
      if i = j then x :: (World.mk s callers history).past j
      else (World.mk s callers history).past j := by
  unfold past
  by_cases hij : i = j <;> simp [hij]

theorem mem_exchanges_of_mem_past {i : Nat} {x : Exchange} (h : x ∈ w.past i) :
    x ∈ w.exchanges := by
  obtain ⟨e, he, rfl⟩ := List.mem_map.1 h
  exact List.mem_map.2 ⟨e, (List.mem_filter.1 he).1, rfl⟩

theorem getElem?_append_one {α : Type} {xs : List α} {x y : α} {i : Nat}
    (h : (xs ++ [x])[i]? = some y) : xs[i]? = some y ∨ xs.length ≤ i ∧ y = x := by
  by_cases hi : i < xs.length
  · rw [List.getElem?_append_left hi] at h
    exact Or.inl h
  · rw [List.getElem?_append_right (by omega)] at h
    exact Or.inr ⟨by omega, List.mem_singleton.1 (List.mem_of_getElem? h)⟩

/-- A caller keeps its operation, and what it has ended in. -/
theorem caller_step (hstep : w.Step allowed w') {i : Nat} {c : Caller}
    (hc : w.callers[i]? = some c) :
    ∃ d, w'.callers[i]? = some d ∧ d.op = c.op ∧ (c.result?.isSome → d = c) := by
  have hlt : i < w.callers.length := (List.getElem?_eq_some_iff.1 hc).1
  cases hstep with
  | idle => exact ⟨c, hc, rfl, fun _ => rfl⟩
  | start => exact ⟨c, by rw [List.getElem?_append_left hlt, hc], rfl, fun _ => rfl⟩
  | @exchange j op r next a s hcaller _ =>
    by_cases hji : j = i
    · subst hji
      rw [hc] at hcaller
      cases hcaller
      exact ⟨_, List.getElem?_set_self hlt, rfl, nofun⟩
    · exact ⟨c, by rw [List.getElem?_set_ne hji, hc], rfl, fun _ => rfl⟩

theorem length_callers_le_step (hstep : w.Step allowed w') :
    w.callers.length ≤ w'.callers.length := by
  apply Nat.le_of_not_lt
  intro hlt
  obtain ⟨d, hd, -⟩ := caller_step hstep (List.getElem?_eq_getElem hlt)
  exact Nat.lt_irrefl _ (List.getElem?_eq_some_iff.1 hd).1

/-- All events are of callers, and each caller keeps to a judgement from what it has seen on. -/
structure Abides (asks : Operation → List Exchange → Request → Prop)
    (ends : Operation → List Exchange → Except Refusal Reply → Prop) (w : World) : Prop where
  known : ∀ e ∈ w.history, e.caller < w.callers.length
  keeps : ∀ (i : Nat) (c : Caller), w.callers[i]? = some c →
    c.rest.Keeps (asks c.op) (ends c.op) (w.past i)

namespace Abides

variable {asks : Operation → List Exchange → Request → Prop}
  {ends : Operation → List Exchange → Except Refusal Reply → Prop}

theorem initial : Abides asks ends initial :=
  ⟨fun _ he => absurd he List.not_mem_nil, fun _ _ hc => (nomatch hc)⟩

theorem past_eq_nil (h : Abides asks ends w) {i : Nat} (hi : w.callers.length ≤ i) :
    w.past i = [] := by
  rw [past, List.map_eq_nil_iff, List.filter_eq_nil_iff]
  intro e he hcaller
  have hlt := h.known e he
  rw [of_decide_eq_true hcaller] at hlt
  omega

/-- What all scripts keep from their beginning, all callers keep at every step. -/
theorem step (hscript : ∀ op : Operation, op.script.Keeps (asks op) (ends op) [])
    (h : Abides asks ends w) (hstep : w.Step allowed w') : Abides asks ends w' := by
  cases hstep with
  | idle => exact h
  | @start op hop =>
    refine ⟨?_, ?_⟩
    · intro e he
      have := h.known e he
      simp only [List.length_append]
      omega
    · intro i c hc
      change c.rest.Keeps _ _ (w.past i)
      rcases getElem?_append_one hc with hc | ⟨hi, rfl⟩
      · exact h.keeps i c hc
      · rw [h.past_eq_nil hi]
        exact hscript op
  | @exchange i op r next a s hcaller hanswer =>
    have hi : i < w.callers.length := (List.getElem?_eq_some_iff.1 hcaller).1
    refine ⟨?_, ?_⟩
    · intro e he
      rw [List.length_set]
      rcases List.mem_cons.1 he with rfl | he
      · exact hi
      · exact h.known e he
    · intro j c hc
      rw [past_cons]
      by_cases hij : i = j
      · subst hij
        rw [List.getElem?_set_self hi] at hc
        cases hc
        rw [if_pos rfl]
        exact (h.keeps i _ hcaller).2 a hanswer.onKey
      · rw [List.getElem?_set_ne hij] at hc
        rw [if_neg hij]
        exact h.keeps j c hc

theorem run (hscript : ∀ op : Operation, op.script.Keeps (asks op) (ends op) [])
    (turns : List Turn) : Abides asks ends (run turns) :=
  run_invariant initial (fun _ _ h hstep => h.step hscript hstep) turns

/-- What a caller has ended in suits what it has seen. -/
theorem ends_of_result (h : Abides asks ends w) {i : Nat} {c : Caller}
    {result : Except Refusal Reply} (hcaller : w.callers[i]? = some c)
    (hresult : c.result? = some result) : ends c.op (w.past i) result := by
  have hkeeps := h.keeps i c hcaller
  obtain ⟨op, rest⟩ := c
  cases rest with
  | call r next => cases hresult
  | _ =>
    cases hresult
    exact hkeeps

end Abides

/-- All events are of callers, and each caller keeps to its contract from what it has seen on. -/
structure Faithful (allowed : Operation → Prop) (w : World) : Prop where
  known : ∀ e ∈ w.history, e.caller < w.callers.length
  started : ∀ (i : Nat) (c : Caller), w.callers[i]? = some c → allowed c.op
  keeps : ∀ (i : Nat) (c : Caller), w.callers[i]? = some c →
    c.rest.Keeps c.op.Asks c.op.Ends (w.past i)

theorem Faithful.abides (h : Faithful allowed w) : w.Abides Operation.Asks Operation.Ends :=
  ⟨h.known, h.keeps⟩

theorem faithful_initial : Faithful allowed initial :=
  ⟨fun _ he => absurd he List.not_mem_nil, fun _ _ hc => (nomatch hc), fun _ _ hc => (nomatch hc)⟩

theorem Faithful.past_eq_nil (h : Faithful allowed w) {i : Nat} (hi : w.callers.length ≤ i) :
    w.past i = [] :=
  h.abides.past_eq_nil hi

theorem started_step (h : ∀ (i : Nat) (c : Caller), w.callers[i]? = some c → allowed c.op)
    (hstep : w.Step allowed w') (i : Nat) (c : Caller) (hc : w'.callers[i]? = some c) :
    allowed c.op := by
  cases hstep with
  | idle => exact h i c hc
  | start hop =>
    rcases getElem?_append_one hc with hc | ⟨-, rfl⟩
    · exact h i c hc
    · exact hop
  | @exchange j op r next a s hcaller _ =>
    by_cases hji : j = i
    · subst hji
      rw [List.getElem?_set_self (List.getElem?_eq_some_iff.1 hcaller).1] at hc
      cases hc
      have hop := h j _ hcaller
      exact hop
    · rw [List.getElem?_set_ne hji] at hc
      exact h i c hc

theorem Faithful.step (h : Faithful allowed w) (hstep : w.Step allowed w') :
    Faithful allowed w' := by
  have habides := h.abides.step Operation.keeps_script hstep
  exact ⟨habides.known, started_step h.started hstep, habides.keeps⟩

theorem faithful_run (turns : List Turn) (hops : ∀ op, Turn.start op ∈ turns → allowed op) :
    Faithful allowed (run turns) :=
  run_induction faithful_initial (fun _ _ h hstep => h.step hstep) turns hops

/-- A caller was paid exactly what it is told of. -/
theorem Faithful.paymentsIn_past (h : Faithful allowed w) (i : Nat) :
    paymentsIn (w.past i) = ((w.callers[i]?).bind Caller.told?).toList := by
  cases hc : w.callers[i]? with
  | none =>
    rw [h.past_eq_nil (List.getElem?_eq_none_iff.1 hc)]
    rfl
  | some c =>
    have hkeeps := h.keeps i c hc
    obtain ⟨op, rest⟩ := c
    cases rest with
    | done reply => exact hkeeps.1
    | fail refusal => exact hkeeps.1
    | call r next => exact hkeeps.1.1.1

end World

theorem Request.Justified.mono {past past' : List Exchange} {r : Request} (h : r.Justified past)
    (hsub : ∀ x ∈ past, x ∈ past') : r.Justified past' := by
  cases r with
  | createProgress _ _ _ | complete _ _ =>
    obtain ⟨achievement, hshown, heq⟩ := h
    exact ⟨achievement, hsub _ hshown, heq⟩
  | debit _ _ _ =>
    obtain ⟨id, coupon, hshown, heq⟩ := h
    exact ⟨id, coupon, hsub _ hshown, heq⟩
  | _ => exact h

/-- Exchanges with a store that was empty at first, the latest first. Each request has its reason in
those before it, whoever made them, or else it moves points directly. -/
inductive Logged (direct : Prop) : List Exchange → Memory → Prop
  | empty : Logged direct [] .empty
  | answered {past : List Exchange} {s s' : Memory} {r : Request}
      {answer : Except StoreError r.Answer} (h : Logged direct past s)
      (hreason : direct ∧ r.movesPoints = true ∨ r.Justified past)
      (hanswer : s.Answers r answer s') : Logged direct (⟨r, answer⟩ :: past) s'

theorem World.logged_run (turns : List Turn) {direct : Prop}
    (hops : ∀ op, Turn.start op ∈ turns → op.movesPoints = true → direct) :
    Logged direct (run turns).exchanges (run turns).store := by
  have hboth : Faithful (fun op => op.movesPoints = true → direct) (run turns) ∧
      Logged direct (run turns).exchanges (run turns).store := by
    apply run_induction (P := fun w => Faithful _ w ∧ Logged direct w.exchanges w.store)
      ⟨faithful_initial, .empty⟩ _ turns hops
    rintro w w' ⟨hfaithful, hlogged⟩ hstep
    refine ⟨hfaithful.step hstep, ?_⟩
    cases hstep with
    | idle => exact hlogged
    | start hop => exact hlogged
    | @exchange i op r next a s hcaller hanswer =>
      apply hlogged.answered _ hanswer
      apply (hfaithful.keeps i _ hcaller).1.2.imp
      · rintro ⟨hop, hr⟩
        exact ⟨hfaithful.started i _ hcaller hop, hr⟩
      · exact fun h => h.mono fun x => mem_exchanges_of_mem_past
  exact hboth.2

end Loyalty
