import Loyalty.Proofs.CutTexts
import Loyalty.Proofs.WrittenDates

/-!
# Numerals

What a whole number looks like in a text: an optional sign, and one or more digits. An amount is
read from exactly the numerals of its value, so nothing else is accepted, and the numeral that is
written is read back.
-/

namespace Loyalty

namespace Text

structure IsNumber (ds : List Char) : Prop where
  digits : ∀ c ∈ ds, c.isDigit = true
  ne_nil : ds ≠ []

/-- The texts of a whole number: an optional sign, and one or more digits. -/
inductive Numeral : List Char → Int → Prop
  | unsigned {ds : List Char} (h : IsNumber ds) : Numeral ds (Nat.ofDigitChars 10 ds 0)
  | plus {ds : List Char} (h : IsNumber ds) : Numeral ('+' :: ds) (Nat.ofDigitChars 10 ds 0)
  | minus {ds : List Char} (h : IsNumber ds) : Numeral ('-' :: ds) (-(Nat.ofDigitChars 10 ds 0))

section Digits

variable {limit acc n : Nat} {beyond : NumberFault} {ds cs : List Char}

theorem le_ofDigitChars (cs : List Char) (acc : Nat) : acc ≤ Nat.ofDigitChars 10 cs acc := by
  induction cs generalizing acc with
  | nil => exact Nat.le_refl acc
  | cons c cs ih =>
    rw [Nat.ofDigitChars_cons]
    refine Nat.le_trans ?_ (ih _)
    omega

/-- Digits are read to their value where that is within the limit, and nothing else is read. -/
theorem readDigits_eq_ok_iff (hacc : acc ≤ limit) : readDigits limit beyond acc cs = .ok n ↔
    (∀ c ∈ cs, c.isDigit = true) ∧ Nat.ofDigitChars 10 cs acc = n ∧ n ≤ limit := by
  induction cs generalizing acc with
  | nil =>
    rw [readDigits, Except.ok.injEq, Nat.ofDigitChars_nil]
    constructor
    · rintro rfl
      exact ⟨fun _ hc => absurd hc List.not_mem_nil, rfl, hacc⟩
    · exact fun h => h.2.1
  | cons c cs ih =>
    have hvalue : 10 * acc + (c.toNat - '0'.toNat) = acc * 10 + (c.toNat - 48) := by
      rw [Nat.mul_comm]
      rfl
    rw [readDigits, digit?, Nat.ofDigitChars_cons, hvalue, List.forall_mem_cons]
    by_cases hc : c.isDigit = true
    · rw [if_pos hc]
      by_cases hfits : acc * 10 + (c.toNat - 48) ≤ limit
      · simp only [if_pos hfits, ih hfits, hc, true_and]
      · have hgrows := le_ofDigitChars cs (acc * 10 + (c.toNat - 48))
        simp only [if_neg hfits, reduceCtorEq, false_iff]
        rintro ⟨-, rfl, hle⟩
        omega
    · simp [hc]

theorem IsNumber.head (h : IsNumber ds) : ∃ d rest, ds = d :: rest ∧ d.isDigit = true := by
  cases ds with
  | nil => exact absurd rfl h.ne_nil
  | cons d rest => exact ⟨d, rest, rfl, h.digits d List.mem_cons_self⟩

theorem IsNumber.trimmed (h : IsNumber ds) : Trimmed ds :=
  ⟨fun c hc => isBlank_of_isDigit (h.digits c (List.mem_of_mem_head? hc)),
    fun c hc => isBlank_of_isDigit (h.digits c (List.mem_of_mem_getLast? hc))⟩

end Digits

namespace Numeral

variable {cs : List Char} {i : Int}

theorem trimmed (h : Numeral cs i) : Trimmed cs := by
  cases h with
  | unsigned h => exact h.trimmed
  | plus h | minus h =>
    constructor
    · rintro c ⟨⟩
      decide
    · intro c hc
      rw [List.getLast?_cons_of_ne_nil h.ne_nil] at hc
      exact h.trimmed.last c hc

/-- Every character is a digit or a sign. -/
theorem not_mem {c : Char} (h : Numeral cs i) (hdigit : c.isDigit = false) (hplus : c ≠ '+')
    (hminus : c ≠ '-') : c ∉ cs := by
  have hnumber : ∀ ds : List Char, IsNumber ds → c ∉ ds := by
    intro ds hds hc
    rw [hds.digits c hc] at hdigit
    cases hdigit
  cases h with
  | unsigned h => exact hnumber _ h
  | plus h => exact List.not_mem_cons_of_ne_of_not_mem hplus (hnumber _ h)
  | minus h => exact List.not_mem_cons_of_ne_of_not_mem hminus (hnumber _ h)

end Numeral

theorem isNumber_digits (n : Nat) : IsNumber (digits n) :=
  ⟨fun _ hc => Nat.isDigit_of_mem_toDigits (by decide) (by decide) hc, Nat.toDigits_ne_nil⟩

theorem numeral_ofInt (i : Int) : Numeral (ofInt i) i := by
  have hvalue : Nat.ofDigitChars 10 (digits i.natAbs) 0 = i.natAbs := Nat.ofDigitChars_ten_toDigits
  unfold ofInt
  split
  · have h := Numeral.minus (isNumber_digits i.natAbs)
    rwa [hvalue, show -(i.natAbs : Int) = i by omega] at h
  · have h := Numeral.unsigned (isNumber_digits i.natAbs)
    rwa [hvalue, show (i.natAbs : Int) = i by omega] at h

section Amounts

variable {cs : List Char} {a : Amount}

theorem readNat_eq_ok_iff {limit n : Nat} : readNat limit cs = .ok n ↔
    ∃ ds, (cs = ds ∨ cs = '+' :: ds) ∧ IsNumber ds ∧ Nat.ofDigitChars 10 ds 0 = n ∧ n ≤ limit := by
  unfold readNat
  split
  · simp only [reduceCtorEq, false_iff]
    rintro ⟨ds, rfl | hplus, hds, -⟩
    · exact hds.ne_nil rfl
    · cases hplus
  · rename_i c cs
    rw [readDigits_eq_ok_iff (Nat.zero_le limit)]
    constructor
    · rintro ⟨hdigits, hvalue⟩
      exact ⟨c :: cs, Or.inr rfl, ⟨hdigits, List.cons_ne_nil c cs⟩, hvalue⟩
    · rintro ⟨ds, rfl | hplus, hds, hvalue⟩
      · cases hds.digits '+' List.mem_cons_self
      · cases hplus
        exact ⟨hds.digits, hvalue⟩
  · rename_i hne hplus
    rw [readDigits_eq_ok_iff (Nat.zero_le limit)]
    constructor
    · rintro ⟨hdigits, hvalue⟩
      exact ⟨cs, Or.inl rfl, ⟨hdigits, hne⟩, hvalue⟩
    · rintro ⟨ds, rfl | rfl, hds, hvalue⟩
      · exact ⟨hds.digits, hvalue⟩
      · obtain ⟨d, rest, rfl, -⟩ := hds.head
        exact absurd rfl (hplus d rest)

theorem map_natCast_eq_ok_iff {r : Except NumberFault Nat} {f : Int → Amount} :
    Except.map f (do let n ← r; pure (n : Int)) = .ok a ↔ ∃ n : Nat, r = .ok n ∧ f n = a := by
  cases r with
  | error e => exact iff_of_false nofun fun ⟨_, h, _⟩ => nomatch h
  | ok n =>
    rw [show Except.map f (do let n ← Except.ok n; pure (n : Int)) = .ok (f n) from rfl]
    simp

theorem ofInt_eq_iff {i : Int} (hlow : -2147483648 ≤ i) (hhigh : i ≤ 2147483647) :
    Int32.ofInt i = a ↔ a.toInt = i := by
  rw [← Int32.toInt_inj, Int32.toInt_ofInt_of_le (by omega) (by omega), eq_comm]

/-- An amount is read from exactly the numerals of its value. -/
theorem readAmount_eq_ok_iff : readAmount cs = .ok a ↔ Numeral cs a.toInt := by
  have hbounds := a.bounds
  unfold readAmount
  split
  · rename_i c cs
    rw [map_natCast_eq_ok_iff]
    constructor
    · rintro ⟨n, hread, hvalue⟩
      obtain ⟨hdigits, rfl, hle⟩ := (readDigits_eq_ok_iff (Nat.zero_le _)).1 hread
      rw [ofInt_eq_iff (by omega) (by omega)] at hvalue
      rw [hvalue]
      exact .minus ⟨hdigits, List.cons_ne_nil c cs⟩
    · intro h
      generalize hi : a.toInt = i at h
      cases h with
      | unsigned h => cases h.digits '-' List.mem_cons_self
      | minus h =>
        refine ⟨_, (readDigits_eq_ok_iff (Nat.zero_le _)).2 ⟨h.digits, rfl, by omega⟩, ?_⟩
        rw [ofInt_eq_iff (by omega) (by omega), hi]
  · rename_i hminus
    rw [map_natCast_eq_ok_iff]
    constructor
    · rintro ⟨n, hread, hvalue⟩
      obtain ⟨ds, hcs, hds, rfl, hle⟩ := readNat_eq_ok_iff.1 hread
      rw [ofInt_eq_iff (by omega) (by omega)] at hvalue
      rw [hvalue]
      rcases hcs with rfl | rfl
      · exact .unsigned hds
      · exact .plus hds
    · intro h
      generalize hi : a.toInt = i at h
      cases h with
      | unsigned h =>
        refine ⟨_, readNat_eq_ok_iff.2 ⟨cs, Or.inl rfl, h, rfl, by omega⟩, ?_⟩
        rw [ofInt_eq_iff (by omega) (by omega), hi]
      | @plus ds h =>
        refine ⟨_, readNat_eq_ok_iff.2 ⟨ds, Or.inr rfl, h, rfl, by omega⟩, ?_⟩
        rw [ofInt_eq_iff (by omega) (by omega), hi]
      | minus h =>
        obtain ⟨d, rest, rfl, -⟩ := h.head
        exact absurd rfl (hminus d rest)

end Amounts

end Text

end Loyalty
