import Loyalty.Proofs.Creation
import Loyalty.Proofs.SameCalls

/-!
# Calls on both stores

Calls that are alike come to replies or refusals that are alike, and leave the stores alike, with
the identifiers taken in that the call has given out.
-/

namespace Loyalty

namespace Script

variable {ε δ α β α' β' : Type}

def fits : Script ε α → Memory → Bool
  | .done _, _ => true
  | .fail _, _ => true
  | .call r next, s => r.fits s && (next (Memory.handle r s).1).fits (Memory.handle r s).2

theorem fits_bind {p : Script ε α} {f : α → Script ε β} {s : Memory}
    (h : (p >>= f).fits s = true) :
    p.fits s = true ∧
      ∀ a, (p.run Memory.handle s).1 = .ok a → (f a).fits (p.run Memory.handle s).2 = true := by
  rw [bind_eq] at h
  induction p generalizing s with
  | done a =>
    refine ⟨rfl, ?_⟩
    rintro b ⟨⟩
    exact h
  | fail e => exact ⟨rfl, fun _ ha => nomatch ha⟩
  | call r next ih =>
    rw [bind, fits, Bool.and_eq_true] at h
    obtain ⟨hnext, hrest⟩ := ih _ h.2
    refine ⟨?_, hrest⟩
    rw [fits, Bool.and_eq_true]
    exact ⟨h.1, hnext⟩

theorem fits_relabel {f : ε → δ} {g : α → β} {p : Script ε α} {s : Memory} :
    (p.relabel f g).fits s = p.fits s := by
  induction p generalizing s with
  | done a => rfl
  | fail e => rfl
  | call r next ih => rw [relabel, fits, fits, ih]

end Script

structure Concur {ε δ α β : Type} (ρ : Renaming) (onError : ε → δ → Prop) (onValue : α → β → Prop)
    (x : Except ε α × Memory) (y : Except δ β × Relational) : Prop where
  outcomes : Outcomes onError onValue x.1 y.1
  simulates : Simulates ρ x.2 y.2

section Concur

variable {ε δ α β α' β' : Type} {ρ : Renaming} {l : Likeness} {s : Memory} {t : Relational}
  {onError : ε → δ → Prop} {onValue : α → β → Prop} {onResult : α' → β' → Prop}

theorem Simulates.run (h : Simulates ρ s t) (hl : ρ.Admits l) {p : Script ε α} {q : Script δ β}
    (hpq : p.Matches l onError onValue q) (hfits : p.fits s = true) :
    Concur ρ onError onValue (p.run Memory.handle s) (q.run Relational.handle t) := by
  induction hpq generalizing s t with
  | done hvalue => exact ⟨.ok hvalue, h⟩
  | fail herror => exact ⟨.error herror, h⟩
  | call hask _ ih =>
    rw [Script.fits, Bool.and_eq_true] at hfits
    obtain ⟨halike, hafter⟩ := h.handle hl hask hfits.1
    exact ih _ _ halike hafter hfits.2

theorem Concur.bind {p : Script ε α} {q : Script δ β} {f : α → Script ε α'} {g : β → Script δ β'}
    (h : Concur ρ onError onValue (p.run Memory.handle s) (q.run Relational.handle t))
    (hnext : ∀ a b, (p.run Memory.handle s).1 = .ok a → onValue a b →
      Concur ρ onError onResult ((f a).run Memory.handle (p.run Memory.handle s).2)
        ((g b).run Relational.handle (q.run Relational.handle t).2)) :
    Concur ρ onError onResult ((p >>= f).run Memory.handle s)
      ((q >>= g).run Relational.handle t) := by
  rw [Script.bind_eq, Script.bind_eq, Script.run_bind, Script.run_bind]
  obtain ⟨houtcomes, hafter⟩ := h
  generalize p.run Memory.handle s = x at *
  generalize q.run Relational.handle t = y at *
  obtain ⟨x, s'⟩ := x
  obtain ⟨y, t'⟩ := y
  dsimp only at *
  cases houtcomes with
  | ok hab => exact hnext _ _ rfl hab
  | error herror => exact ⟨.error herror, hafter⟩

theorem Concur.relabel {ε' δ' : Type} {onError' : ε' → δ' → Prop} {p : Script ε α}
    {q : Script δ β} {f : ε → ε'} {f' : δ → δ'} {g : α → α'} {g' : β → β'}
    (h : Concur ρ onError onValue (p.run Memory.handle s) (q.run Relational.handle t))
    (herror : ∀ e d, onError e d → onError' (f e) (f' d))
    (hvalue : ∀ a b, onValue a b → onResult (g a) (g' b)) :
    Concur ρ onError' onResult ((p.relabel f g).run Memory.handle s)
      ((q.relabel f' g').run Relational.handle t) := by
  rw [Script.run_relabel, Script.run_relabel]
  obtain ⟨houtcomes, hafter⟩ := h
  generalize (p.run Memory.handle s).1 = x at *
  generalize (q.run Relational.handle t).1 = y at *
  cases houtcomes with
  | ok hab => exact ⟨.ok (hvalue _ _ hab), hafter⟩
  | error h => exact ⟨.error (herror _ _ h), hafter⟩

end Concur

namespace Achievements

variable {ρ : Renaming} {l : Likeness} {s : Memory} {t : Relational}

theorem run_get {i : AchievementId} {a : Achievement}
    (h : ((get i).run Memory.handle s).1 = .ok a) :
    s.achievements.find? i = some a ∧ ((get i).run Memory.handle s).2 = s := by
  have hrun : (get i).run Memory.handle s =
      (Script.ofOption (.notFound i) (s.achievements.find? i)).run Memory.handle s := rfl
  rw [hrun] at h ⊢
  cases hfound : s.achievements.find? i with
  | none =>
    rw [hfound] at h
    cases h
  | some b =>
    rw [hfound] at h
    cases h
    exact ⟨rfl, rfl⟩

theorem concur_start (h : Simulates ρ s t) (hl : ρ.Admits l) {u v : UserId}
    {i j : AchievementId} (huser : l.users u v) (hachievement : l.achievements i j)
    (total : Amount) (hstored : (s.achievements.find? i).isSome)
    (hfits : (start i u total).fits s = true) :
    Concur ρ l.SameAchievementError l.SameProgress ((start i u total).run Memory.handle s)
      ((start j v total).run Relational.handle t) := by
  unfold start at hfits ⊢
  rw [Script.fits, Bool.and_eq_true] at hfits
  obtain ⟨hrow, hafter⟩ := h.createProgress hl hachievement huser total hstored hfits.1
  rw [Script.run_call, Script.run_call]
  have hrest := hfits.2
  change Outcomes SameKind l.SameProgress (Memory.handle (.createProgress i u total) s).1
    (Relational.handle (.createProgress j v total) t).1 at hrow
  generalize (Memory.handle (.createProgress i u total) s).1 = x at *
  generalize (Relational.handle (.createProgress j v total) t).1 = y at *
  cases hrow with
  | ok hab => exact ⟨.ok hab, hafter⟩
  | @error e d hkind =>
    dsimp only at hrest ⊢
    rw [show d.kind = e.kind from hkind.symm]
    split
    · rename_i hconflict
      rw [if_pos hconflict] at hrest
      exact hafter.run hl (matches_findProgress hachievement huser) hrest
    · exact ⟨.error (.store hkind), hafter⟩

theorem concur_record (h : Simulates ρ s t) (hl : ρ.Admits l) (today : Date) {u v : UserId}
    {i j : AchievementId} (huser : l.users u v) (hachievement : l.achievements i j)
    (hfits : (record today u i).fits s = true) :
    Concur ρ l.SameAchievementError l.SameOutcome ((record today u i).run Memory.handle s)
      ((record today v j).run Relational.handle t) := by
  obtain ⟨hfitsGet, hfits⟩ := Script.fits_bind hfits
  have hget := h.run hl (matches_get hachievement) hfitsGet
  refine hget.bind ?_
  intro a b ha hab
  have hstored : (s.achievements.find? i).isSome := by
    rw [(run_get ha).1]
    rfl
  replace h := hget.simulates
  replace hfits := hfits a ha
  rw [(run_get ha).2] at h hfits ⊢
  generalize ((get j).run Relational.handle t).2 = t at h ⊢
  have hstatus : (a.requirement.statusOn today == .active) =
      (b.requirement.statusOn today == .active) := by rw [hab.2.2]
  have htarget : b.target = a.target := by
    rw [hab.2.2]
    rfl
  rw [← hstatus, htarget]
  cases hactive : a.requirement.statusOn today == .active with
  | false => exact ⟨.error (.inactive hachievement), h⟩
  | true =>
    rw [hactive] at hfits
    replace hfits := (Script.fits_bind hfits).2 () rfl
    refine (h.run hl (Script.Matches.require rfl (.inactive hachievement)) rfl).bind ?_
    rintro _ _ - -
    obtain ⟨hfitsAsk, hfits⟩ := Script.fits_bind hfits
    have hlookUp : Script.Matches l l.SameAchievementError (Option.Rel l.SameProgress)
        (Script.ask .store (.findProgress i u)) (Script.ask .store (.findProgress j v)) :=
      .ask (.findProgress hachievement huser) fun _ _ => .store
    have hask := h.run hl hlookUp hfitsAsk
    refine hask.bind ?_
    intro found found' hs hfound
    replace hfits := hfits found hs
    replace h := hask.simulates
    cases hfound with
    | some hrow => exact h.run hl (matches_advance hrow) hfits
    | none =>
      obtain ⟨hfitsStart, hfits⟩ := Script.fits_bind hfits
      have hstart := concur_start h hl huser hachievement a.target hstored hfitsStart
      refine hstart.bind ?_
      intro row row' hs hrow
      exact hstart.simulates.run hl (matches_advance hrow) (hfits row hs)

end Achievements

/-- What the two validations of alike forms come to. -/
theorem CouponForm.validate_of_eq {a b : CouponForm}
    (h : b = { a with restaurantId := b.restaurantId }) :
    (∃ report, a.validate = .error report ∧ b.validate = .error report) ∨
      ∃ input, a.validate = .ok input ∧ input.restaurantId = a.restaurantId ∧
        b.validate = .ok { input with restaurantId := b.restaurantId } := by
  have hvalidity : b.validity = a.validity := by
    rw [h]
    rfl
  have hreport : b.fieldReport = a.fieldReport := by
    rw [h]
    rfl
  unfold validate
  rw [hvalidity, hreport]
  cases a.validity with
  | error complaint => exact Or.inl ⟨_, rfl, rfl⟩
  | ok validity =>
    cases a.fieldReport.verdict with
    | error report => exact Or.inl ⟨report, rfl, rfl⟩
    | ok _ =>
      refine Or.inr ⟨_, rfl, rfl, ?_⟩
      rw [h]
      rfl

theorem CompactAchievement.expand_of_eq {a b : CompactAchievement}
    (h : b = { a with restaurantId := b.restaurantId }) :
    (∃ report, a.expand = .error report ∧ b.expand = .error report) ∨
      ∃ input, a.expand = .ok input ∧ input.restaurantId = a.restaurantId ∧
        b.expand = .ok { input with restaurantId := b.restaurantId } := by
  unfold expand
  rw [h]
  cases Requirement.ofCompact a.typeCode a.value with
  | error fault => exact Or.inl ⟨_, rfl, rfl⟩
  | ok requirement => exact Or.inr ⟨_, rfl, rfl, rfl⟩

namespace Accounts

variable {σ : Type} {handle : Handler σ} {input : Registration} {s s' : σ}

theorem run_create_ok {user : User} (h : handle (.createUser input.account) s = (.ok user, s')) :
    (create input).run handle s = (.ok user, s') := by
  rw [create, Script.run_call, h]
  rfl

theorem run_create_error {e : StoreError}
    (h : handle (.createUser input.account) s = (.error e, s')) (he : e.kind = .conflict) :
    (create input).run handle s = (.error (.invalid (Report.empty.push .emailTaken)), s') := by
  rw [create, Script.run_call, h]
  dsimp only
  rw [if_pos he]
  rfl

end Accounts

/-- Both stores have answered a call alike and are alike, with what the call has given out. -/
structure Stepped (ρ : Renaming) (l : Likeness) (op : Operation) (x : Except Refusal Reply × Memory)
    (y : Except Refusal Reply × Relational) : Prop where
  simulates : Simulates (ρ.learn op x.1 y.1) x.2 y.2
  outcomes : (ρ.learn op x.1 y.1).pairs.Le l → Outcomes l.SameRefusal l.SameReply x.1 y.1

section Stepped

variable {ρ : Renaming} {l : Likeness} {s : Memory} {t : Relational} {op op' : Operation}

/-- A call that gives out no identifiers leaves the renaming. -/
theorem Concur.stepped {x : Except Refusal Reply × Memory} {y : Except Refusal Reply × Relational}
    (h : Concur ρ l.SameRefusal l.SameReply x y) (hop : ρ.learn op x.1 y.1 = ρ) :
    Stepped ρ l op x y :=
  ⟨by rw [hop]; exact h.simulates, fun _ => h.outcomes⟩

theorem stepped_register (h : Simulates ρ s t) (hl : ρ.Admits l) (input : Registration)
    (hfits : (Operation.register input).script.fits s = true) :
    Stepped ρ l (.register input) ((Operation.register input).script.run Memory.handle s)
      ((Operation.register input).script.run Relational.handle t) := by
  rw [Operation.script, Script.fits_relabel] at hfits
  rw [Operation.script, Script.run_relabel, Script.run_relabel]
  have hfitsRest := (Script.fits_bind hfits).2 (s.findUserByEmail input.email) rfl
  obtain ⟨found, hfound, hrel⟩ : ∃ found, t.findUserByEmail input.email = .ok found ∧
      Option.Rel l.SameUser (s.findUserByEmail input.email) found := by
    have hanswer := h.findUserByEmail hl input.email
    generalize t.findUserByEmail input.email = y at hanswer ⊢
    cases hanswer with
    | ok hrel => exact ⟨_, rfl, hrel⟩
  have htaken : found.isSome = (s.findUserByEmail input.email).isSome := by
    rcases rel_cases hrel with ⟨hs, rfl⟩ | ⟨a, b, hs, rfl, -⟩
    · rw [hs]
    · rw [hs]
      rfl
  have hleft : Memory.handle (.findUserByEmail input.email) s =
      (.ok (s.findUserByEmail input.email), s) := rfl
  have hright : Relational.handle (.findUserByEmail input.email) t = (.ok found, t) :=
    Prod.ext hfound rfl
  unfold Accounts.register
  rw [Script.run_ask_bind hleft, Script.run_ask_bind hright, htaken]
  cases hverdict : (input.report (s.findUserByEmail input.email).isSome).verdict with
  | error report => exact ⟨h, fun _ => .error (.account (.invalid report))⟩
  | ok _ =>
    rw [hverdict] at hfitsRest
    rcases h.createUser input.account (Bool.and_eq_true_iff.1 hfitsRest).1 with
      ⟨e, d, hs, ht, he, hd⟩ | ⟨a, b, s', t', hs, ht, hsame, hafter⟩
    · dsimp only
      rw [Accounts.run_create_error hs he, Accounts.run_create_error ht hd]
      exact ⟨h, fun _ => .error (.account (.invalid _))⟩
    · dsimp only
      rw [Accounts.run_create_ok hs, Accounts.run_create_ok ht]
      exact ⟨hafter, fun hle => .ok (.user ⟨hle.users List.mem_cons_self, hsame⟩)⟩

theorem stepped_createRestaurant (h : Simulates ρ s t) (input : NewRestaurant)
    (hfits : (Operation.createRestaurant input).script.fits s = true) :
    Stepped ρ l (.createRestaurant input)
      ((Operation.createRestaurant input).script.run Memory.handle s)
      ((Operation.createRestaurant input).script.run Relational.handle t) := by
  rw [Operation.script, Script.fits_relabel] at hfits
  obtain ⟨hsame, hafter⟩ := h.createRestaurant input (Bool.and_eq_true_iff.1 hfits).1
  exact ⟨hafter, fun hle => .ok (.restaurant ⟨hle.restaurants List.mem_cons_self, hsame⟩)⟩

theorem stepped_createCoupon (h : Simulates ρ s t) (hl : ρ.Admits l) {a b : CouponForm}
    (hform : l.SameCouponForm a b) (hfits : (Operation.createCoupon a).script.fits s = true) :
    Stepped ρ l (.createCoupon a) ((Operation.createCoupon a).script.run Memory.handle s)
      ((Operation.createCoupon b).script.run Relational.handle t) := by
  rw [Operation.script, Script.fits_relabel, Coupons.create] at hfits
  rw [Operation.script, Operation.script, Script.run_relabel, Script.run_relabel, Coupons.create,
    Coupons.create]
  rcases CouponForm.validate_of_eq hform.2 with
    ⟨report, ha, hb⟩ | ⟨input, ha, hrestaurant, hb⟩
  · rw [ha, hb]
    exact ⟨h, fun _ => .error (.coupon (.invalid report))⟩
  · rw [ha] at hfits
    have halike : l.restaurants input.restaurantId b.restaurantId := hrestaurant ▸ hform.1
    obtain ⟨coupon, t', ht, hsame, hafter⟩ := h.createCoupon hl input
      { input with restaurantId := b.restaurantId } halike rfl (Bool.and_eq_true_iff.1 hfits).1
    have hs : Memory.handle (.createCoupon input) s =
        (.ok (s.createCoupon input).1, (s.createCoupon input).2) := rfl
    have hrestaurant' : coupon.restaurantId = b.restaurantId := by rw [hsame]
    rw [ha, hb]
    dsimp only
    rw [Script.run_ask_ok hs, Script.run_ask_ok ht]
    refine ⟨hafter, fun hle => .ok (.coupon ⟨hle.coupons List.mem_cons_self, ?_, ?_⟩)⟩
    · rw [hrestaurant']
      exact halike
    · rw [hrestaurant']
      exact hsame

/-- An achievement in order is entered by both stores, and one that is not by neither. -/
theorem stepped_create (h : Simulates ρ s t) (hl : ρ.Admits l) {a b : NewAchievement}
    (hinput : l.SameNewAchievement a b) (hfits : (Achievements.create a).fits s = true)
    (hlearn : ∀ x y : Achievement, ρ.learn op (.ok (.achievement x)) (.ok (.achievement y)) =
      ρ.withAchievement x.id y.id)
    (hkeep : ∀ e d : Refusal, ρ.learn op (.error e) (.error d) = ρ) :
    Stepped ρ l op
      (((Achievements.create a).relabel .achievement .achievement).run Memory.handle s)
      (((Achievements.create b).relabel .achievement .achievement).run Relational.handle t) := by
  have hreport : b.report = a.report := by
    rw [hinput.2]
    rfl
  rw [Script.run_relabel, Script.run_relabel]
  unfold Achievements.create at hfits ⊢
  rw [hreport]
  cases hverdict : a.report.verdict with
  | error report =>
    refine ⟨?_, fun _ => .error (.achievement (.invalid report))⟩
    change Simulates (ρ.learn op (.error _) (.error _)) s t
    rw [hkeep]
    exact h
  | ok _ =>
    rw [hverdict] at hfits
    obtain ⟨achievement, t', ht, hsame, hafter⟩ := h.createAchievement hl a b hinput.1 hinput.2
      (Bool.and_eq_true_iff.1 hfits).1
    have hs : Memory.handle (.createAchievement a) s =
        (.ok (s.createAchievement a).1, (s.createAchievement a).2) := rfl
    have hrestaurant : achievement.restaurantId = b.restaurantId := by rw [hsame]
    dsimp only
    rw [Script.run_ask_ok hs, Script.run_ask_ok ht]
    constructor
    · change Simulates (ρ.learn op (.ok (.achievement _)) (.ok (.achievement _))) _ _
      rw [hlearn]
      exact hafter
    · intro hle
      change (ρ.learn op (.ok (.achievement _)) (.ok (.achievement _))).pairs.Le l at hle
      rw [hlearn] at hle
      refine .ok (.achievement ⟨hle.achievements List.mem_cons_self, ?_, ?_⟩)
      · rw [hrestaurant]
        exact hinput.1
      · rw [hrestaurant]
        exact hsame

theorem stepped_createCompactAchievement (h : Simulates ρ s t) (hl : ρ.Admits l)
    {a b : CompactAchievement} (hform : l.SameCompactAchievement a b)
    (hfits : (Operation.createCompactAchievement a).script.fits s = true) :
    Stepped ρ l (.createCompactAchievement a)
      ((Operation.createCompactAchievement a).script.run Memory.handle s)
      ((Operation.createCompactAchievement b).script.run Relational.handle t) := by
  rw [Operation.script, Script.fits_relabel] at hfits
  rw [Operation.script, Operation.script]
  unfold Achievements.createCompact at hfits ⊢
  rcases CompactAchievement.expand_of_eq hform.2 with
    ⟨report, ha, hb⟩ | ⟨input, ha, hrestaurant, hb⟩
  · rw [ha, hb]
    exact ⟨h, fun _ => .error (.achievement (.invalid report))⟩
  · rw [ha] at hfits
    rw [ha, hb]
    have halike : l.restaurants input.restaurantId b.restaurantId := hrestaurant ▸ hform.1
    exact stepped_create h hl ⟨halike, rfl⟩ hfits (fun _ _ => rfl) fun _ _ => rfl

/-- Every call that is the same on both sides is answered alike by both stores. -/
theorem Simulates.stepped (h : Simulates ρ s t) (hl : ρ.Admits l) (hcall : l.SameCall op op')
    (hfits : op.script.fits s = true) :
    Stepped ρ l op (op.script.run Memory.handle s) (op'.script.run Relational.handle t) := by
  cases hop : op.enters with
  | false =>
    have hlearn : ∀ x y, ρ.learn op x y = ρ := by
      intro x y
      unfold Renaming.learn
      split <;> first | rfl | cases hop
    exact (h.run hl (Operation.matches_script hcall hop) hfits).stepped (hlearn _ _)
  | true =>
    cases hcall with
    | register input => exact stepped_register h hl input hfits
    | createRestaurant input => exact stepped_createRestaurant h input hfits
    | createCoupon hform => exact stepped_createCoupon h hl hform hfits
    | createAchievement hinput =>
      rw [Operation.script, Script.fits_relabel] at hfits
      exact stepped_create h hl hinput hfits (fun _ _ => rfl) fun _ _ => rfl
    | createCompactAchievement hform => exact stepped_createCompactAchievement h hl hform hfits
    | record today huser hachievement =>
      rw [Operation.script, Script.fits_relabel] at hfits
      have hrecord := Achievements.concur_record h hl today huser hachievement hfits
      exact (hrecord.relabel (fun _ _ => Likeness.SameRefusal.achievement)
        fun _ _ => Likeness.SameReply.outcome).stepped rfl
    | _ => cases hop

end Stepped

end Loyalty
