import Loyalty.Proofs.Ledger
import Loyalty.Proofs.Levels
import Mathlib.Data.List.Induction

/-!
# Levels never drop

Experience comes from rewards only, none of which is negative, and nothing takes it away. So over a
run a balance stays, and its level never falls. A redemption checks the level of a balance that it
has read, which holds no more than what is stored later. So whoever got past that check once is not
turned away later for the level of a coupon that asks for no more.
-/

namespace Loyalty

open Memory

def Exchange.TakesFrom (userId : UserId) (restaurantId : RestaurantId) (x : Exchange) : Prop :=
  ∃ points, x.purchase? = some ⟨userId, restaurantId, points⟩

def Exchange.Gives (x : Exchange) : Prop :=
  (∀ p, x.payment? = some p → 0 ≤ p.reward.points.toInt ∧ 0 ≤ p.reward.experience.toInt) ∧
    ∀ userId restaurantId points experience balance,
      x = ⟨.credit userId restaurantId points experience, .ok balance⟩ →
        0 ≤ points.toInt ∧ 0 ≤ experience.toInt

theorem Exchange.IsFair.gives {x : Exchange} (h : x.IsFair) : x.Gives :=
  ⟨h.1, fun _ _ _ _ _ hx => absurd hx (h.2 _ _ _ _ _)⟩

def Achievement.IsFair (a : Achievement) : Prop := 0 ≤ a.points.toInt ∧ 0 ≤ a.experience.toInt

namespace Memory

def experienceOf (s : Memory) (userId : UserId) (restaurantId : RestaurantId) : Int :=
  (s.balanceOf userId restaurantId).experience.toInt

structure Grows (userId : UserId) (restaurantId : RestaurantId) (s s' : Memory) : Prop where
  kept : s.balances.find? (userId, restaurantId) ≠ none →
    s'.balances.find? (userId, restaurantId) ≠ none
  experience : s.experienceOf userId restaurantId ≤ s'.experienceOf userId restaurantId

namespace Grows

variable {userId : UserId} {restaurantId : RestaurantId} {s s' s'' : Memory}

theorem refl (userId : UserId) (restaurantId : RestaurantId) (s : Memory) :
    Grows userId restaurantId s s :=
  ⟨id, Int.le_refl _⟩

theorem trans (h : Grows userId restaurantId s s') (h' : Grows userId restaurantId s' s'') :
    Grows userId restaurantId s s'' :=
  ⟨fun hfound => h'.kept (h.kept hfound), h.experience.trans h'.experience⟩

end Grows

/-- An exchange that gives keeps a balance, takes no experience away, and no points but those that
were to be taken. -/
theorem BalanceStep.holds {x : Exchange} {userId : UserId} {restaurantId : RestaurantId}
    {before after : Option Balance} (h : BalanceStep userId restaurantId x before after)
    (hgives : x.Gives) :
    (before ≠ none → after ≠ none) ∧
      (before.getD (.empty userId restaurantId)).experience.toInt ≤
        (after.getD (.empty userId restaurantId)).experience.toInt ∧
      (¬ x.TakesFrom userId restaurantId →
        (before.getD (.empty userId restaurantId)).points ≤
          (after.getD (.empty userId restaurantId)).points) := by
  cases h with
  | credited hcredit hx =>
    obtain ⟨hpoints, hexperience⟩ := hgives.2 _ _ _ _ _ hx
    obtain ⟨hsum, hsum'⟩ := toInt_of_credited? hcredit
    rw [Int32.le_iff_toInt_le, Option.getD_some, hsum, hsum']
    exact ⟨fun _ => nofun, by omega, fun _ => by omega⟩
  | @paid row reward _ b huser _ hcredit hx =>
    obtain ⟨hpoints, hexperience⟩ : 0 ≤ reward.points.toInt ∧ 0 ≤ reward.experience.toInt :=
      hgives.1 ⟨row.userId, row.achievementId, reward⟩ (hx ▸ rfl)
    obtain ⟨hsum, hsum'⟩ := toInt_of_credited? hcredit
    rw [Int32.le_iff_toInt_le, Option.getD_some, hsum, hsum']
    exact ⟨fun _ => nofun, by omega, fun _ => by omega⟩
  | @debited points _ _ _ _ hx =>
    subst hx
    exact ⟨fun _ => nofun, Int.le_refl _, fun hkept => absurd ⟨points, rfl⟩ hkept⟩
  | kept => exact ⟨id, Int.le_refl _, fun _ => Int32.le_refl _⟩

theorem Change.grows {s s' : Memory} {x : Exchange} (h : s.Change x s') (hfair : x.IsFair)
    (userId : UserId) (restaurantId : RestaurantId) : Grows userId restaurantId s s' := by
  obtain ⟨hkept, hexperience, -⟩ := (h.balance userId restaurantId).holds hfair.gives
  exact ⟨hkept, hexperience⟩

/-- What is offered with a reason is fair, as everything that was offered before. -/
theorem Change.isFair {s s' : Memory} {r : Request} {answer : Except StoreError r.Answer}
    {past : List Exchange} (h : s.Change ⟨r, answer⟩ s')
    (hreason : r.movesPoints = true ∨ r.Justified past)
    (hstored : ∀ (id : AchievementId) (a : Achievement),
      s.achievements.find? id = some a → a.IsFair)
    {id : AchievementId} {a : Achievement} (hfound : s'.achievements.find? id = some a) :
    a.IsFair := by
  rcases h.achievement hfound with hbefore | hoffered
  · exact hstored id a hbefore
  · obtain ⟨-, -, input, hx, hpoints, hexperience, -⟩ := h.offered hoffered
    cases hx
    rcases hreason with hmoves | hvalid
    · cases hmoves
    · obtain ⟨hpoints', hexperience', -⟩ := NewAchievement.bounds_of_verdict hvalid
      rw [Achievement.IsFair, hpoints, hexperience]
      exact ⟨hpoints', hexperience'⟩

end Memory

/-- What a log tells of experience: no reward takes any away, and what was read of a balance is no
more than what it holds. -/
structure Earning (past : List Exchange) (s : Memory) : Prop where
  stored : ∀ (id : AchievementId) (a : Achievement), s.achievements.find? id = some a → a.IsFair
  shown : ∀ (id : AchievementId) (a : Achievement),
    (⟨.findAchievement id, .ok (some a)⟩ : Exchange) ∈ past → a.IsFair
  held : ∀ (userId : UserId) (restaurantId : RestaurantId), 0 ≤ s.experienceOf userId restaurantId
  read : ∀ (userId : UserId) (restaurantId : RestaurantId) (found : Option Balance),
    (⟨.findBalance userId restaurantId, .ok found⟩ : Exchange) ∈ past →
      (found.getD (.empty userId restaurantId)).experience.toInt ≤
        s.experienceOf userId restaurantId

namespace Earning

variable {past : List Exchange} {s s' : Memory} {r : Request}
  {answer : Except StoreError r.Answer}

theorem empty : Earning [] .empty where
  stored _ _ hfound := nomatch hfound
  shown _ _ hshown := absurd hshown List.not_mem_nil
  held _ _ := Int.le_refl 0
  read _ _ _ hread := absurd hread List.not_mem_nil

/-- A request with a reason pays no less than nothing. -/
theorem fair (h : Earning past s) (hreason : r.Justified past) :
    Exchange.IsFair ⟨r, answer⟩ := by
  constructor
  · intro p hp
    obtain ⟨a, hshown, hreward⟩ := hreason.shown_of_payment hp
    rw [hreward]
    exact h.shown _ a hshown
  · rintro userId restaurantId points experience balance heq
    cases heq
    exact hreason

/-- What is read of a balance is what is stored, or nothing. -/
theorem read_le (h : Earning past s) {userId : UserId} {restaurantId : RestaurantId}
    {found : Option Balance}
    (hanswer : s.Answers (.findBalance userId restaurantId) (.ok found) s') :
    (found.getD (.empty userId restaurantId)).experience.toInt ≤
      s.experienceOf userId restaurantId := by
  rcases hanswer.served_or_disturbed with ⟨hserved, -⟩ | ⟨fault, hfault⟩
  · cases hserved
    exact Int.le_refl _
  · cases fault with
    | failure e => cases hfault
    | absent =>
      cases hfault
      exact h.held userId restaurantId

theorem step (h : Earning past s) (hreason : r.Justified past) (hanswer : s.Answers r answer s') :
    Earning (⟨r, answer⟩ :: past) s' := by
  have hchange := hanswer.change
  have hgrows := hchange.grows (h.fair hreason)
  refine ⟨?_, ?_, ?_, ?_⟩
  · exact fun _ _ hfound => hchange.isFair (Or.inr hreason) h.stored hfound
  · intro id a hshown
    rcases List.mem_cons.1 hshown with heq | hshown
    · cases heq
      exact h.stored id a hanswer.achievement
    · exact h.shown id a hshown
  · intro userId restaurantId
    exact (h.held userId restaurantId).trans (hgrows userId restaurantId).experience
  · intro userId restaurantId found hread
    refine le_trans ?_ (hgrows userId restaurantId).experience
    rcases List.mem_cons.1 hread with heq | hread
    · cases heq
      exact h.read_le hanswer
    · exact h.read userId restaurantId found hread

end Earning

theorem Logged.earning {past : List Exchange} {s : Memory} (h : Logged False past s) :
    Earning past s := by
  induction h with
  | empty => exact .empty
  | answered _ hreason hanswer ih => exact ih.step (hreason.resolve_left fun hr => hr.1) hanswer

namespace Coupons

def Admits (curve : LevelCurve) (userId : UserId) (coupon : Coupon) (found : Option Balance) :
    Prop :=
  coupon.level.toInt ≤ (found.getD (.empty userId coupon.restaurantId)).level curve

instance (curve : LevelCurve) (userId : UserId) (coupon : Coupon) (found : Option Balance) :
    Decidable (Admits curve userId coupon found) :=
  inferInstanceAs (Decidable (_ ≤ _))

def Admitted (curve : LevelCurve) (userId : UserId) (id : CouponId) (past : List Exchange) : Prop :=
  ∀ coupon found, (⟨.findCoupon id, .ok (some coupon)⟩ : Exchange) ∈ past →
    (⟨.findBalance userId coupon.restaurantId, .ok found⟩ : Exchange) ∈ past →
      Admits curve userId coupon found

def TurnedAway (curve : LevelCurve) (userId : UserId) (id : CouponId) (past : List Exchange) :
    Prop :=
  ∃ coupon found, past = [⟨.findBalance userId coupon.restaurantId, .ok found⟩,
    ⟨.findCoupon id, .ok (some coupon)⟩] ∧ ¬ Admits curve userId coupon found

def Judged (curve : LevelCurve) (userId : UserId) (id : CouponId) (past : List Exchange) :
    Except CouponError Balance → Prop
  | .error (.levelTooLow ..) => TurnedAway curve userId id past
  | _ => Admitted curve userId id past

/-- Without a balance nobody has the wrong level. -/
theorem admitted_of_unread {curve : LevelCurve} {userId : UserId} {id : CouponId}
    {past : List Exchange}
    (h : ∀ restaurantId found,
      (⟨.findBalance userId restaurantId, .ok found⟩ : Exchange) ∉ past) :
    Admitted curve userId id past :=
  fun coupon found _ hread => absurd hread (h coupon.restaurantId found)

theorem admitted_of_admits {curve : LevelCurve} {userId : UserId} (id : CouponId) {coupon : Coupon}
    {found : Option Balance} (h : Admits curve userId coupon found) :
    Admitted curve userId id [⟨.findBalance userId coupon.restaurantId, .ok found⟩,
      ⟨.findCoupon id, .ok (some coupon)⟩] := by
  intro coupon' found' hshown hread
  rcases List.mem_cons.1 hshown with heq | hshown
  · cases heq
  · cases List.mem_singleton.1 hshown
    rcases List.mem_cons.1 hread with heq | hread
    · cases heq
      exact h
    · cases List.mem_singleton.1 hread

theorem Admitted.debit {curve : LevelCurve} {userId : UserId} {id : CouponId}
    {past : List Exchange} (h : Admitted curve userId id past) {restaurantId : RestaurantId}
    {points : Amount} (answer : Except StoreError (Option Balance)) :
    Admitted curve userId id (⟨.debit userId restaurantId points, answer⟩ :: past) := by
  intro coupon found hshown hread
  rcases List.mem_cons.1 hshown with heq | hshown
  · cases heq
  · rcases List.mem_cons.1 hread with heq | hread
    · cases heq
    · exact h coupon found hshown hread

theorem keeps_gate (curve : LevelCurve) (today : Date) (userId : UserId) (id : CouponId) :
    (redeem curve today userId id).Keeps (fun past _ => Admitted curve userId id past)
      (Judged curve userId id) [] := by
  refine ⟨admitted_of_unread fun _ _ => List.not_mem_nil, ?_⟩
  rintro (e | _ | coupon) _
  · exact admitted_of_unread (by simp)
  · exact admitted_of_unread (by simp)
  · have hunread : Admitted curve userId id [⟨.findCoupon id, .ok (some coupon)⟩] :=
      admitted_of_unread (by simp)
    refine Script.Keeps.require (fun _ => ⟨hunread, ?_⟩) fun _ => hunread
    rintro (e | found) _
    · exact admitted_of_unread (by simp)
    · refine Script.Keeps.require (fun hlevel => ?_) fun hlevel => ?_
      · have hadmits : Admits curve userId coupon found := of_decide_eq_true hlevel
        have hadmitted := admitted_of_admits id hadmits
        split
        · exact hadmitted
        · refine Script.Keeps.require (fun _ => ⟨hadmitted, ?_⟩) fun _ => hadmitted
          rintro (e | _ | rest) _ <;> exact hadmitted.debit _
      · exact ⟨coupon, found, rfl, of_decide_eq_false hlevel⟩

end Coupons

/-- A script is judged by nothing. -/
theorem Script.keeps_of_forall {ε α : Type} {asks : List Exchange → Request → Prop}
    {ends : List Exchange → Except ε α → Prop} (hasks : ∀ past r, asks past r)
    (hends : ∀ past result, ends past result) (p : Script ε α) (past : List Exchange) :
    p.Keeps asks ends past := by
  induction p generalizing past with
  | done a => exact hends past _
  | fail e => exact hends past _
  | call r next ih => exact ⟨hasks past r, fun answer _ => ih answer _⟩

namespace Operation

def Admitted : Operation → List Exchange → Request → Prop
  | .redeem curve _ userId id, past, _ => Coupons.Admitted curve userId id past
  | _, _, _ => True

def Judged : Operation → List Exchange → Except Refusal Reply → Prop
  | .redeem curve _ userId id, past, .error (.coupon (.levelTooLow ..)) =>
    Coupons.TurnedAway curve userId id past
  | .redeem curve _ userId id, past, _ => Coupons.Admitted curve userId id past
  | _, _, _ => True

theorem keeps_gate (op : Operation) : op.script.Keeps op.Admitted op.Judged [] := by
  cases op with
  | redeem curve today userId id =>
    rw [script, Script.keeps_relabel]
    refine (Coupons.keeps_gate curve today userId id).mono (fun _ _ h => h) ?_
    rintro past (e | balance) h
    · cases e <;> exact h
    · exact h
  | _ => exact Script.keeps_of_forall (fun _ _ => trivial) (fun _ _ => trivial) _ _

end Operation

namespace World

variable {w w' : World}

abbrev Serves (op : Operation) : Prop := op.movesPoints = false

theorem Faithful.justified (h : Faithful Serves w) {i : Nat} {op : Operation} {r : Request}
    {next : Except StoreError r.Answer → Script Refusal Reply}
    (hcaller : w.callers[i]? = some ⟨op, .call r next⟩) : r.Justified w.exchanges := by
  rcases (h.keeps i _ hcaller).1.2 with ⟨hmoves, -⟩ | hreason
  · exact absurd ((h.started i _ hcaller).symm.trans hmoves) Bool.false_ne_true
  · exact hreason.mono fun x => mem_exchanges_of_mem_past

theorem grows_step (hfaithful : Faithful Serves w) (hearning : Earning w.exchanges w.store)
    (hstep : w.Step Serves w') (userId : UserId) (restaurantId : RestaurantId) :
    Memory.Grows userId restaurantId w.store w'.store := by
  cases hstep with
  | idle => exact .refl _ _ _
  | start => exact .refl _ _ _
  | exchange hcaller hanswer =>
    exact hanswer.change.grows (hearning.fair (hfaithful.justified hcaller)) _ _

section Later

variable {before later : List Turn} {allowed : Operation → Prop} {userId : UserId}
  {restaurantId : RestaurantId}

theorem earning_run {turns : List Turn} (hservices : ∀ op, Turn.start op ∈ turns → Serves op) :
    Earning (run turns).exchanges (run turns).store :=
  (logged_run turns fun op hop hmoves =>
    Bool.false_ne_true ((hservices op hop).symm.trans hmoves)).earning

theorem allowed_init {t : Turn}
    (h : ∀ op, Turn.start op ∈ before ++ (later ++ [t]) → allowed op) :
    (∀ op, Turn.start op ∈ before ++ later → allowed op) ∧ ∀ op, t = .start op → allowed op := by
  rw [← List.append_assoc] at h
  exact ⟨fun op hop => h op (List.mem_append_left _ hop),
    fun op hop => h op (List.mem_append_right _ (hop ▸ List.mem_cons_self))⟩

/-- What relates the worlds before and after each step relates those before and after the later part
of a run. -/
theorem later_run {R : World → World → Prop} (hrefl : ∀ w, R w w)
    (htrans : ∀ w w' w'', R w w' → R w' w'' → R w w'')
    (hstep : ∀ turns w', (∀ op, Turn.start op ∈ turns → allowed op) →
      (run turns).Step allowed w' → R (run turns) w')
    (hops : ∀ op, Turn.start op ∈ before ++ later → allowed op) :
    R (run before) (run (before ++ later)) := by
  induction later using List.reverseRecOn with
  | nil =>
    rw [List.append_nil]
    exact hrefl _
  | append_singleton later t ih =>
    obtain ⟨hearlier, hlast⟩ := allowed_init hops
    rw [← List.append_assoc, run_append]
    exact htrans _ _ _ (ih hearlier) (hstep _ _ hearlier (step_take t hlast))

theorem grows_run (hservices : ∀ op, Turn.start op ∈ before ++ later → Serves op)
    (userId : UserId) (restaurantId : RestaurantId) :
    Memory.Grows userId restaurantId (run before).store (run (before ++ later)).store :=
  later_run (R := fun w w' => Memory.Grows userId restaurantId w.store w'.store)
    (fun _ => .refl _ _ _) (fun _ _ _ => .trans)
    (fun turns _ hearlier hstep =>
      grows_step (faithful_run turns hearlier) (earning_run hearlier) hstep _ _) hservices

/-- What callers from `first` on have read of a balance is no less experience than `floor`. -/
def ReadSince (first : Nat) (userId : UserId) (restaurantId : RestaurantId) (floor : Int)
    (w : World) : Prop :=
  ∀ i found, first ≤ i →
    (⟨.findBalance userId restaurantId, .ok found⟩ : Exchange) ∈ w.past i →
      floor ≤ (found.getD (.empty userId restaurantId)).experience.toInt

/-- An exchange that is no answer of nothing reads what is stored. -/
theorem ReadSince.exchange {first : Nat} {floor : Int}
    (h : ReadSince first userId restaurantId floor w)
    (hfloor : floor ≤ w.store.experienceOf userId restaurantId) (i : Nat)
    {answer : (r : Request) → Memory → Option (Except StoreError r.Answer × Memory)}
    (hanswer : ∀ found s, answer (.findBalance userId restaurantId) w.store = some (.ok found, s) →
      found = w.store.balances.find? (userId, restaurantId)) :
    ReadSince first userId restaurantId floor (w.exchange i answer) := by
  rcases w.exchange_cases i answer with hsame | ⟨op, r, next, a, s, hcaller, ha, heq⟩
  · rw [hsame]
    exact h
  · rw [heq]
    intro j found hj hread
    rw [past_cons] at hread
    split at hread
    · rcases List.mem_cons.1 hread with hnow | hbefore
      · cases hnow
        rw [hanswer found s ha]
        exact hfloor
      · exact h j found hj hbefore
    · exact h j found hj hread

theorem readSince_run (hservices : ∀ op, Turn.start op ∈ before ++ later → Serves op)
    (hpresent : ∀ i, Turn.disturb i .absent ∉ later) (userId : UserId)
    (restaurantId : RestaurantId) :
    ReadSince (run before).callers.length userId restaurantId
      ((run before).store.experienceOf userId restaurantId) (run (before ++ later)) := by
  induction later using List.reverseRecOn with
  | nil =>
    intro i found hi hread
    rw [List.append_nil] at hservices hread
    rw [(faithful_run before hservices).past_eq_nil hi] at hread
    cases hread
  | append_singleton later t ih =>
    obtain ⟨hearlier, hlast⟩ := allowed_init hservices
    have hsince := ih hearlier fun i hi => hpresent i (List.mem_append_left _ hi)
    have hfloor := (grows_run hearlier userId restaurantId).experience
    rw [← List.append_assoc, run_append]
    cases t with
    | start op => exact hsince
    | serve i =>
      refine hsince.exchange hfloor i ?_
      rintro found s ⟨⟩
      rfl
    | disturb i fault =>
      refine hsince.exchange hfloor i ?_
      rintro found s hfault
      cases fault with
      | failure e => cases hfault
      | absent => exact absurd (List.mem_append_right _ List.mem_cons_self) (hpresent i)

end Later

/-- A redemption got past the level check of a coupon: it was shown the coupon, has read the balance
and was not refused for its level. -/
def GotPast (w : World) (curve : LevelCurve) (userId : UserId) (coupon : Coupon) : Prop :=
  ∃ i c today id found, w.callers[i]? = some c ∧ c.op = .redeem curve today userId id ∧
    (⟨.findCoupon id, .ok (some coupon)⟩ : Exchange) ∈ w.past i ∧
    (⟨.findBalance userId coupon.restaurantId, .ok found⟩ : Exchange) ∈ w.past i ∧
    ∀ required actual, c.result? ≠ some (.error (.coupon (.levelTooLow required actual)))

theorem admitted_of_result {i : Nat} {c : Caller} {curve : LevelCurve} {today : Date}
    {userId : UserId} {id : CouponId} (h : w.Abides Operation.Admitted Operation.Judged)
    (hcaller : w.callers[i]? = some c) (hop : c.op = .redeem curve today userId id)
    (hresult : ∀ required actual,
      c.result? ≠ some (.error (.coupon (.levelTooLow required actual)))) :
    Coupons.Admitted curve userId id (w.past i) := by
  have hkeeps := h.keeps i c hcaller
  obtain ⟨op, rest⟩ := c
  cases hop
  cases rest with
  | done reply => exact hkeeps
  | call r next => exact hkeeps.1
  | fail refusal =>
    cases refusal with
    | coupon e =>
      cases e with
      | levelTooLow required actual => exact absurd rfl (hresult required actual)
      | _ => exact hkeeps
    | _ => exact hkeeps

theorem turnedAway_of_result {i : Nat} {c : Caller} {curve : LevelCurve} {today : Date}
    {userId : UserId} {id : CouponId} {required : Amount} {actual : Nat}
    (h : w.Abides Operation.Admitted Operation.Judged) (hcaller : w.callers[i]? = some c)
    (hop : c.op = .redeem curve today userId id)
    (hresult : c.result? = some (.error (.coupon (.levelTooLow required actual)))) :
    Coupons.TurnedAway curve userId id (w.past i) := by
  have hends := h.ends_of_result hcaller hresult
  rwa [hop] at hends

end World

theorem Balance.level_mono {b b' : Balance} (h : b.experience.toInt ≤ b'.experience.toInt)
    (curve : LevelCurve) : b.level curve ≤ b'.level curve := by
  have hbounds := b'.experience.bounds
  exact curve.levelFor_mono h (by rw [LevelCurve.ceiling]; omega)

namespace World

/-- Whatever turns services take: every balance is still there later, on no lower level. And where
no answer is lost, a redemption that starts after one of the same user got past the level check is
refused for its level only if its coupon is of another restaurant or asks for a higher level. -/
theorem levels_never_drop (before later : List Turn)
    (hservices : ∀ op, Turn.start op ∈ before ++ later → op.movesPoints = false) :
    (∀ (userId : UserId) (restaurantId : RestaurantId) (b : Balance),
      (run before).store.balances.find? (userId, restaurantId) = some b →
        ∃ b', (run (before ++ later)).store.balances.find? (userId, restaurantId) = some b' ∧
          b.experience ≤ b'.experience ∧ ∀ curve, b.level curve ≤ b'.level curve) ∧
    ((∀ i, Turn.disturb i .absent ∉ later) →
      ∀ (curve : LevelCurve) (userId : UserId) (coupon : Coupon),
        (run before).GotPast curve userId coupon →
        ∀ (j : Nat) (c : Caller) (today : Date) (id : CouponId) (required : Amount) (actual : Nat),
          (run before).callers.length ≤ j → (run (before ++ later)).callers[j]? = some c →
          c.op = .redeem curve today userId id →
          c.result? = some (.error (.coupon (.levelTooLow required actual))) →
          ∃ other, (∀ shown, (⟨.findCoupon id, .ok (some shown)⟩ : Exchange) ∈
              (run (before ++ later)).past j ↔ shown = other) ∧
            (other.restaurantId = coupon.restaurantId → coupon.level < other.level)) := by
  constructor
  · intro userId restaurantId b hfound
    have hgrows := grows_run hservices userId restaurantId
    have hexperience := hgrows.experience
    rw [Memory.experienceOf, Memory.balanceOf, hfound, Memory.experienceOf, Memory.balanceOf]
      at hexperience
    cases hlater : (run (before ++ later)).store.balances.find? (userId, restaurantId) with
    | none => exact absurd hlater (hgrows.kept (hfound ▸ Option.some_ne_none b))
    | some b' =>
      rw [hlater] at hexperience
      exact ⟨b', rfl, Int32.le_iff_toInt_le.2 hexperience, Balance.level_mono hexperience⟩
  · rintro hpresent curve userId coupon ⟨i, d, day, id, found, hd, hd', hshown, hread, hpast⟩
      j c today id' required actual hj hc hc' hrefused
    have hbefore : ∀ op, Turn.start op ∈ before → op.movesPoints = false :=
      fun op hop => hservices op (List.mem_append_left _ hop)
    have habides : ∀ turns, (run turns).Abides Operation.Admitted Operation.Judged :=
      Abides.run Operation.keeps_gate
    -- What the first redemption has read is at most what was stored when the second one started.
    have hadmits : Coupons.Admits curve userId coupon found :=
      admitted_of_result (habides before) hd hd' hpast coupon found hshown hread
    have hheld := (earning_run hbefore).read userId coupon.restaurantId found
      (mem_exchanges_of_mem_past hread)
    obtain ⟨other, seen, hseen, hlow⟩ :=
      turnedAway_of_result (habides (before ++ later)) hc hc' hrefused
    refine ⟨other, fun shown => ?_, fun hsame => ?_⟩
    · rw [hseen]
      simp
    · have hsince := readSince_run hservices hpresent userId coupon.restaurantId j seen hj
        (hseen ▸ hsame ▸ List.mem_cons_self)
      have hlevel := Balance.level_mono (hheld.trans hsince) curve
      rw [Coupons.Admits] at hadmits hlow
      rw [Int32.lt_iff_toInt_lt]
      rw [hsame] at hlow
      omega

/-- A visit earns a level, and a redemption of a coupon that asks for it has read the balance. -/
def gatePassed : List Turn :=
  [.start (.createAchievement ⟨⟨1⟩, "Welcome", 120, 10, ⟨.visit 1, .indefinite⟩⟩), .serve 0,
    .start (.createCoupon ⟨⟨1⟩, "Tea", "One cup", 6, 1, none, none, true⟩), .serve 1,
    .start (.record .newYear ⟨7⟩ ⟨1⟩), .serve 2, .serve 2, .serve 2, .serve 2, .serve 2, .serve 2,
    .start (.redeem .standard .newYear ⟨7⟩ ⟨2⟩), .serve 3, .serve 3]

def gateAgain : List Turn :=
  [.start (.redeem .standard .newYear ⟨7⟩ ⟨2⟩), .serve 4, .serve 3, .serve 4]

theorem gateAgain_admits :
    (∃ b, (run (gatePassed ++ gateAgain)).store.balances.find? (⟨7⟩, ⟨1⟩) = some b ∧
      120 ≤ b.experience ∧ 1 ≤ b.level .standard) ∧
    ∀ required actual, (run (gatePassed ++ gateAgain)).callers[4]?.bind Caller.result? ≠
      some (.error (.coupon (.levelTooLow required actual))) := by
  have hservices : ∀ op, Turn.start op ∈ gatePassed ++ gateAgain → op.movesPoints = false := by
    simp [gatePassed, gateAgain, Operation.movesPoints]
  have hfound : (run gatePassed).store.balances.find? (⟨7⟩, ⟨1⟩) = some ⟨⟨7⟩, ⟨1⟩, 10, 120⟩ := by
    decide
  obtain ⟨hkept, hgate⟩ := levels_never_drop gatePassed gateAgain hservices
  obtain ⟨b, hb, hexperience, hlevels⟩ := hkept ⟨7⟩ ⟨1⟩ _ hfound
  refine ⟨⟨b, hb, hexperience, hlevels .standard⟩, fun required actual hrefused => ?_⟩
  let tea : Coupon := ⟨⟨2⟩, ⟨1⟩, "Tea", "One cup", 6, 1, .indefinite, false⟩
  have hpast : (run gatePassed).GotPast .standard ⟨7⟩ tea := by
    refine ⟨3, _, .newYear, ⟨2⟩, some ⟨⟨7⟩, ⟨1⟩, 10, 120⟩, rfl, rfl, ?_, ?_, ?_⟩
    · exact List.mem_cons_of_mem _ List.mem_cons_self
    · exact List.mem_cons_self
    · rintro _ _ ⟨⟩
  obtain ⟨c, hc, hresult⟩ := Option.bind_eq_some_iff.1 hrefused
  obtain ⟨other, hshown, hhigher⟩ := hgate (by simp [gateAgain]) .standard ⟨7⟩ tea hpast 4 c
    .newYear ⟨2⟩ required actual (Nat.le_refl 4) hc (by cases hc; rfl) hresult
  obtain rfl : tea = other := (hshown tea).1 (List.mem_cons_of_mem _ List.mem_cons_self)
  exact absurd (hhigher rfl) (by decide)

end World

end Loyalty
