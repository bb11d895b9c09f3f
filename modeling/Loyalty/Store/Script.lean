import Loyalty.Store.Error
import Loyalty.Store.Request

/-!
# Scripts

A script is a plan of requests to a store, each of which may depend on the answers so far. It ends
in a result or in an error. Running a script on a store makes its requests one after the other;
several scripts may also take turns, because nothing but a request touches the store.
-/

namespace Loyalty

inductive Script (ε α : Type) where
  | done (a : α)
  | fail (e : ε)
  | call (r : Request) (next : Except StoreError r.Answer → Script ε α)

/-- A store answers a request and goes over to its next state. -/
abbrev Handler (σ : Type) := (r : Request) → σ → Except StoreError r.Answer × σ

def answered {α σ : Type} (p : α × σ) : Except StoreError α × σ := (.ok p.1, p.2)

namespace Script

variable {ε α β σ : Type}

def bind : Script ε α → (α → Script ε β) → Script ε β
  | .done a, f => f a
  | .fail e, _ => .fail e
  | .call r next, f => .call r fun answer => (next answer).bind f

instance : Monad (Script ε) where
  pure := .done
  bind := .bind

/-- Makes one request, of which errors are not caught. -/
def ask (report : StoreError → ε) (r : Request) : Script ε r.Answer :=
  .call r fun
    | .ok a => .done a
    | .error e => .fail (report e)

def ofOption (e : ε) : Option α → Script ε α
  | none => .fail e
  | some a => .done a

def require (condition : Bool) (e : ε) : Script ε Unit :=
  if condition then .done () else .fail e

def run (handle : Handler σ) : Script ε α → σ → Except ε α × σ
  | .done a, s => (.ok a, s)
  | .fail e, s => (.error e, s)
  | .call r next, s => run handle (next (handle r s).1) (handle r s).2

@[simp] theorem run_done (handle : Handler σ) (a : α) (s : σ) :
    run handle (.done a : Script ε α) s = (.ok a, s) := rfl

@[simp] theorem run_call (handle : Handler σ) (r : Request)
    (next : Except StoreError r.Answer → Script ε α) (s : σ) :
    run handle (.call r next) s = run handle (next (handle r s).1) (handle r s).2 := rfl

theorem bind_eq (p : Script ε α) (f : α → Script ε β) : p >>= f = p.bind f := rfl

theorem run_ask (handle : Handler σ) (report : StoreError → ε) (r : Request) (s : σ) :
    run handle (ask report r) s =
      match (handle r s).1 with
      | .ok a => (.ok a, (handle r s).2)
      | .error e => (.error (report e), (handle r s).2) := by
  rw [ask, run_call]
  cases (handle r s).1 <;> rfl

theorem run_bind (handle : Handler σ) (p : Script ε α) (f : α → Script ε β) (s : σ) :
    run handle (p.bind f) s =
      match run handle p s with
      | (.ok a, s) => run handle (f a) s
      | (.error e, s) => (.error e, s) := by
  induction p generalizing s with
  | done a => rfl
  | fail e => rfl
  | call r next ih => simp only [bind, run_call, ih]

theorem run_ask_ok {handle : Handler σ} {report : StoreError → ε} {r : Request} {a : r.Answer}
    {s s' : σ} (h : handle r s = (.ok a, s')) : (ask report r).run handle s = (.ok a, s') := by
  rw [run_ask, h]

theorem run_ask_bind {handle : Handler σ} {report : StoreError → ε} {r : Request}
    {f : r.Answer → Script ε α} {a : r.Answer} {s s' : σ} (h : handle r s = (.ok a, s')) :
    (ask report r >>= f).run handle s = (f a).run handle s' := by
  rw [bind_eq, run_bind, run_ask, h]

theorem run_ask_bind_error {handle : Handler σ} {report : StoreError → ε} {r : Request}
    {f : r.Answer → Script ε α} {e : StoreError} {s s' : σ} (h : handle r s = (.error e, s')) :
    (ask report r >>= f).run handle s = (.error (report e), s') := by
  rw [bind_eq, run_bind, run_ask, h]

/-- A condition that does not hold ends a script. -/
theorem run_require (handle : Handler σ) (condition : Bool) (e : ε) (f : Unit → Script ε α)
    (s : σ) :
    (require condition e >>= f).run handle s =
      if condition then (f ()).run handle s else (.error e, s) := by
  cases condition <;> rfl

end Script

end Loyalty
