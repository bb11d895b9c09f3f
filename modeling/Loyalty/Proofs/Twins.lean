import Loyalty.Proofs.Runs

/-!
# Two stores, one history

The same calls are made of the store in memory and of the relational store, both empty at first.
Each store is called with the identifiers that it gave out itself; a call with an identifier that
one store has never given out is made of the other with such an identifier as well. Then the stores
are not told apart: they give the same answers, under one renaming of identifiers that keeps the
order in every table.
-/

namespace Loyalty

/-- Both stores, the identifiers that they gave to the same things, and what they have answered so
far, the latest first. -/
structure Twin where
  memory : Memory
  relational : Relational
  known : Renaming
  answers : List (Except Refusal Reply × Except Refusal Reply)

def Memory.fitting : List Operation → Memory → Bool
  | [], _ => true
  | op :: ops, s => op.script.fits s && fitting ops (op.script.run Memory.handle s).2

namespace Twin

def initial : Twin := ⟨.empty, .empty, .empty, []⟩

def take (w : Twin) (call : Operation × Operation) : Twin :=
  let left := call.1.script.run Memory.handle w.memory
  let right := call.2.script.run Relational.handle w.relational
  ⟨left.2, right.2, w.known.learn call.1 left.1 right.1, (left.1, right.1) :: w.answers⟩

def run (calls : List (Operation × Operation)) : Twin := calls.foldl take initial

variable {w : Twin} {calls : List (Operation × Operation)}

theorem known_le_foldl (w : Twin) (calls : List (Operation × Operation)) :
    w.known.pairs.Le (calls.foldl take w).known.pairs := by
  induction calls generalizing w with
  | nil => exact ⟨id, id, id, id⟩
  | cons call calls ih => exact (Renaming.pairs_le_learn _ _ _ _).trans (ih (w.take call))

def AnswerAlike (l : Likeness) (answer : Except Refusal Reply × Except Refusal Reply) : Prop :=
  Outcomes l.SameRefusal l.SameReply answer.1 answer.2

/-- The induction is on the calls, and each is looked at twice. Under what is alike so far, the call
leaves the stores alike, so that in the end the renaming is known to rise. Then, under what is alike
in the end, the answers to the call are alike. -/
theorem simulates_foldl (h : Simulates w.known w.memory w.relational)
    (hcalls : ∀ call ∈ calls, (calls.foldl take w).known.like.SameCall call.1 call.2)
    (hfits : Memory.fitting (calls.map Prod.fst) w.memory = true) :
    Simulates (calls.foldl take w).known (calls.foldl take w).memory
        (calls.foldl take w).relational ∧
      ∀ answer ∈ (calls.foldl take w).answers,
        answer ∈ w.answers ∨ AnswerAlike (calls.foldl take w).known.like answer := by
  induction calls generalizing w with
  | nil => exact ⟨h, fun _ hanswer => Or.inl hanswer⟩
  | cons call calls ih =>
    rw [List.map_cons, Memory.fitting, Bool.and_eq_true] at hfits
    rw [List.foldl_cons] at hcalls ⊢
    have hcall := hcalls call List.mem_cons_self
    have hknown : w.known.pairs.Le (w.take call).known.pairs := Renaming.pairs_le_learn _ _ _ _
    have hlater := known_le_foldl (w.take call) calls
    have hsofar := h.stepped (h.rises.admits ⟨id, id, id, id⟩)
      (Likeness.sameCall_mono (Renaming.like_le (hknown.trans hlater)) hcall) hfits.1
    obtain ⟨hend, hanswers⟩ := ih (w := w.take call) hsofar.simulates
      (fun c hc => hcalls c (List.mem_cons_of_mem call hc)) hfits.2
    refine ⟨hend, ?_⟩
    intro answer hanswer
    rcases hanswers answer hanswer with hnow | hlater'
    · rcases List.mem_cons.1 hnow with rfl | hbefore
      · have hfinal := h.stepped (hend.rises.admits (hknown.trans hlater)) hcall hfits.1
        exact Or.inr (hfinal.outcomes (hlater.trans hend.rises.pairs_le_like))
      · exact Or.inl hbefore
    · exact Or.inr hlater'

theorem simulates_initial : Simulates initial.known initial.memory initial.relational where
  users := .nil
  restaurants := .nil
  coupons := .nil
  achievements := .nil
  progress := .nil
  balances := .nil
  owned := fun _ hrow => absurd hrow List.not_mem_nil
  rises := Renaming.rises_empty
  covers := Renaming.covers_empty

/-- Whatever calls are made of both stores, they are answered alike under one renaming. The renaming
pairs all identifiers that either store has given out, and pairs them in the same order in every
table; the calls are the same under it. As far as the calls go, what they refer to by the identifier
of a user or a restaurant is there where it is written, no balance leaves its range, and the first
store, which has one sequence of identifiers for all tables, has one left for what is entered. -/
theorem stores_agree (calls : List (Operation × Operation))
    (hcalls : ∀ call ∈ calls, (run calls).known.like.SameCall call.1 call.2)
    (hfits : Memory.fitting (calls.map Prod.fst) .empty = true) :
    (∀ answer ∈ (run calls).answers, AnswerAlike (run calls).known.like answer) ∧
      (run calls).known.Rises ∧
      (run calls).known.Covers (run calls).memory.created (run calls).relational.lastUser
        (run calls).relational.lastRestaurant (run calls).relational.lastCoupon
        (run calls).relational.lastAchievement := by
  obtain ⟨hend, hanswers⟩ := simulates_foldl simulates_initial hcalls hfits
  refine ⟨?_, hend.rises, hend.covers⟩
  intro answer hanswer
  exact (hanswers answer hanswer).resolve_left List.not_mem_nil

/-- A visit to a new restaurant is rewarded, and then a user is asked for that is in neither store.
The first store numbers what is entered from one to three, the other each time with one. -/
def firstVisit : List (Operation × Operation) :=
  let ada : Operation := .register ⟨"Ada", "ada@home", "digest", "digest", .customer⟩
  let house : Operation := .createRestaurant ⟨"Tea House", "Main Street"⟩
  [(ada, ada), (house, house),
    (.createAchievement ⟨⟨2⟩, "Welcome", 5, 10, ⟨.visit 1, .indefinite⟩⟩,
      .createAchievement ⟨⟨1⟩, "Welcome", 5, 10, ⟨.visit 1, .indefinite⟩⟩),
    (.record .newYear ⟨1⟩ ⟨3⟩, .record .newYear ⟨1⟩ ⟨1⟩),
    (.getUser ⟨9⟩, .getUser ⟨4⟩)]

theorem firstVisit_known :
    (run firstVisit).known = ⟨[(⟨1⟩, ⟨1⟩)], [(⟨2⟩, ⟨1⟩)], [], [(⟨3⟩, ⟨1⟩)]⟩ := by
  rfl

theorem firstVisit_same :
    ∀ call ∈ firstVisit, (run firstVisit).known.like.SameCall call.1 call.2 := by
  rw [firstVisit_known]
  simp only [firstVisit, List.forall_mem_cons]
  refine ⟨.register _, .createRestaurant _, .createAchievement ⟨?_, rfl⟩,
    .record _ ?_ ?_, .getUser ?_, fun _ h => absurd h List.not_mem_nil⟩
  all_goals simp [Renaming.like, Untold]

/-- The visitor is paid by both stores, and both refuse the last call. -/
theorem firstVisit_agrees :
    (run firstVisit).answers.head? =
      some (.error (.account (.notFound ⟨9⟩)), .error (.account (.notFound ⟨4⟩))) ∧
    (run firstVisit).answers[1]? = some
      (.ok (.outcome (.completed ⟨1⟩ ⟨3⟩ ⟨⟨2⟩, 10, 5⟩)),
        .ok (.outcome (.completed ⟨1⟩ ⟨1⟩ ⟨⟨1⟩, 10, 5⟩))) ∧
    ∀ answer ∈ (run firstVisit).answers, AnswerAlike (run firstVisit).known.like answer :=
  ⟨rfl, rfl, (stores_agree firstVisit firstVisit_same rfl).1⟩

end Twin

end Loyalty
