import Loyalty.Proofs.Exchange

/-!
# Requests one after the other

A store is asked some requests in a row: the exchanges that come of it, in the order of time, and
the store afterwards. What each request keeps, the requests together keep.
-/

namespace Loyalty

namespace Handler

variable {σ : Type} (handle : Handler σ)

def exchanges : List Request → σ → List Exchange
  | [], _ => []
  | r :: rs, s => ⟨r, (handle r s).1⟩ :: exchanges rs (handle r s).2

def after : List Request → σ → σ
  | [], s => s
  | r :: rs, s => after rs (handle r s).2

/-- The invariant may speak of the exchanges that there have been so far, the latest first. -/
theorem after_induction {P : List Exchange → σ → Prop}
    (hstep : ∀ past s r, P past s → P (⟨r, (handle r s).1⟩ :: past) (handle r s).2)
    (requests : List Request) {past : List Exchange} {s : σ} (h : P past s) :
    P ((exchanges handle requests s).reverse ++ past) (after handle requests s) := by
  induction requests generalizing past s with
  | nil => exact h
  | cons r rs ih =>
    have hrest := ih (hstep past s r h)
    rwa [exchanges, List.reverse_cons, List.append_assoc]

end Handler

end Loyalty
